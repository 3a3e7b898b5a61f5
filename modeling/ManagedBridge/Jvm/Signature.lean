/-!
# Classes and signatures

The classes that the bridge asks for by name, and the signatures of the methods it calls. Strings
are built and read by methods that take a charset.
-/

namespace ManagedBridge.Jvm

def stringClassName : String := "java/lang/String"

def charsetClassName : String := "java/nio/charset/Charset"

def constructorSignature : String := "([BLjava/nio/charset/Charset;)V"

def getBytesSignature : String := "(Ljava/nio/charset/Charset;)[B"

def forNameSignature : String := "(Ljava/lang/String;)Ljava/nio/charset/Charset;"

def toStringSignature : String := "()Ljava/lang/String;"

end ManagedBridge.Jvm
