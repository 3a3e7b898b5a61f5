import ManagedBridge.Proofs.Script
import ManagedBridge.Proofs.Utf8

/-!
# Agreement with what is told

What a backend has to do for scripts to come to what is told of them: enter and leave scopes, and do
what is asked for, from wherever the thread stands. For conversions it is enough that its contexts
carry strings across.
-/

namespace ManagedBridge

open Text

variable {σ ρ κ ς β γ : Type}

/-- A backend in which a script comes to what is told of it. `At` says of a state where the thread
stands: with which context it is attached, if it is, and whether a scope attached it; whether an
exception is pending; and which strings there are. Some steps may end with an error instead, if
something has `failed`, and do so if the script is in a breach that the backend `refuses`. -/
structure Backend.Agrees (b : Backend σ ρ κ ς β γ) (limit : Nat) (runtime : ρ)
    (refuses : Breach → Prop) (failed : BridgeError → σ → Prop)
    (At : Option (γ × Bool) → Bool → List (ς × String) → σ → Prop) : Prop where
  attached : ∀ {position pending known s}, At position pending known s →
    b.attached s = position.isSome
  forget : ∀ {position pending known new s}, At position pending (new ++ known) s →
    At position pending known s
  enter : (Bridge.attach b.place b.runtime).Returns (At none false [])
    fun r s => (∃ e, r = .error e ∧ failed e s) ∨
      ∃ c, r = .ok (runtime, c, ⟨true⟩) ∧ At (some (c, true)) false [] s
  reuse : ∀ c created pending known,
    (Bridge.attach b.place b.runtime).Returns (At (some (c, created)) pending known)
      fun r s => r = .ok (runtime, c, ⟨false⟩) ∧ At (some (c, created)) pending known s
  leave : ∀ c pending known, (Attachment.exit (b.runtime runtime) ⟨true⟩).Returns
    (At (some (c, true)) pending known) fun _ => At none false []
  leaveFailed : ∀ e attachment, (Attachment.exit (b.runtime runtime) attachment).Returns
    (failed e) fun _ => failed e
  grant : ∀ c created {pending known request outcome strings pending'},
    Request.tell limit (known.map Prod.snd) pending request = .ok (outcome, strings, pending') →
    (b.grant c (known.map Prod.fst) request).Returns (At (some (c, created)) pending known)
      fun r s => (∃ e, r = .error e ∧ failed e s) ∨
        ∃ new, r = .ok (outcome, (new ++ known).map Prod.fst) ∧
          strings = (new ++ known).map Prod.snd ∧
          At (some (c, created)) pending' (new ++ known) s
  refuse : ∀ c created {pending known request breach},
    Request.tell limit (known.map Prod.snd) pending request = .error breach → refuses breach →
    (b.grant c (known.map Prod.fst) request).Returns (At (some (c, created)) pending known)
      fun r s => ∃ e, r = .error e ∧ failed e s

/-- What a script can be given where the thread stands. -/
inductive Stands : {inside : Bool} → Option (γ × Bool) → (pending : Bool) → List (ς × String) →
    Scope γ ς inside → Prop
  | inside (c : γ) (created pending : Bool) (known : List (ς × String)) :
    @Stands true (some (c, created)) pending known (c, known.map Prod.fst)
  | outside (c : γ) (created pending : Bool) : @Stands false (some (c, created)) pending [] ()
  | detached : @Stands false none false [] ()

theorem Stands.strings_eq {inside : Bool} {position : Option (γ × Bool)} {pending : Bool}
    {known : List (ς × String)} {scope : Scope γ ς inside}
    (h : Stands position pending known scope) : scope.strings = known.map Prod.fst := by
  cases h <;> rfl

/-- Behind a scope the thread stands as before it; a pending exception stays if the thread does. -/
theorem Stands.behind {inside : Bool} {position : Option (γ × Bool)} {pending : Bool}
    {known : List (ς × String)} {scope : Scope γ ς inside}
    (h : Stands position pending known scope) (pending' : Bool) :
    Stands position (position.isSome && pending') known scope := by
  cases h with
  | inside c created => exact .inside c created pending' known
  | outside c created => exact .outside c created pending'
  | detached => exact .detached

namespace Backend.Agrees

variable {b : Backend σ ρ κ ς β γ} {limit : Nat} {runtime : ρ} {refuses : Breach → Prop}
  {failed : BridgeError → σ → Prop} {At : Option (γ × Bool) → Bool → List (ς × String) → σ → Prop}

/-- Performed from where the thread stands, the script comes to what is told of it, or to an error
after something has failed. -/
def Performs (b : Backend σ ρ κ ς β γ) (limit : Nat) (refuses : Breach → Prop)
    (failed : BridgeError → σ → Prop)
    (At : Option (γ × Bool) → Bool → List (ς × String) → σ → Prop) {inside : Bool}
    (script : Script inside) : Prop :=
  ∀ {position pending known} {scope : Scope γ ς inside} (past : List Report),
    Stands position pending known scope →
    (∀ breach, script.tell limit position.isSome pending (known.map Prod.snd) past =
      .error breach → refuses breach) →
    (script.perform b scope past).Returns (At position pending known)
      fun r s => (∃ e, r = .error e ∧ failed e s) ∨ ∃ pending' past',
        script.tell limit position.isSome pending (known.map Prod.snd) past =
          .ok (pending', past') ∧ r = .ok past' ∧ At position pending' known s

theorem performs_ask (h : b.Agrees limit runtime refuses failed At) (request : Request)
    {next : List Report → Script true}
    (hnext : ∀ past, Performs b limit refuses failed At (next past)) :
    Performs b limit refuses failed At (.ask request next) := by
  intro position pending known scope past stands hrefuses w hw
  cases stands with
  | inside c created =>
    rw [Script.tell] at hrefuses ⊢
    cases htell : Request.tell limit (known.map Prod.snd) pending request with
    | error breach =>
      rw [htell] at hrefuses
      obtain ⟨_, v, hrun, e, rfl, hfailed⟩ :=
        h.refuse c created htell (hrefuses breach rfl) w hw
      exact ⟨_, v, Script.run_ask_refused hrun, .inl ⟨e, rfl, hfailed⟩⟩
    | ok told =>
      obtain ⟨outcome, strings, pending'⟩ := told
      rw [htell] at hrefuses
      obtain ⟨_, v, hrun, ⟨e, rfl, hfailed⟩ | ⟨new, rfl, rfl, hv⟩⟩ :=
        h.grant c created htell w hw
      · exact ⟨_, v, Script.run_ask_refused hrun, .inl ⟨e, rfl, hfailed⟩⟩
      · obtain ⟨r, u, hperformed, hu⟩ := hnext _ _ (.inside c created pending' (new ++ known))
          hrefuses v hv
        refine ⟨r, u, (Script.run_ask hrun (h.attached hv)).trans hperformed, hu.imp_right ?_⟩
        rintro ⟨last, past', htold, hr, hlast⟩
        exact ⟨last, past', htold, hr, h.forget hlast⟩

/-- A scope that was entered is left, whether or not its body came to its end. -/
theorem performs_entered (h : b.Agrees limit runtime refuses failed At) {inside : Bool}
    {body : List Report → Script true} {next : List Report → Script inside}
    (hbody : ∀ past, Performs b limit refuses failed At (body past))
    (hnext : ∀ past, Performs b limit refuses failed At (next past))
    {position : Option (γ × Bool)} {pending : Bool} {known : List (ς × String)}
    {scope : Scope γ ς inside} {past : List Report} {c : γ} {created : Bool} {w v : World σ}
    (stands : Stands position pending known scope)
    (hrefuses : ∀ breach, (Script.within body next).tell limit position.isSome pending
      (known.map Prod.snd) past = .error breach → refuses breach)
    (henter : (Bridge.attach b.place b.runtime).run w =
      (.ok (.ok (runtime, c, ⟨!position.isSome⟩)), v))
    (hv : At (some (c, created)) pending known v.backend)
    (hleave : ∀ pending', (Attachment.exit (b.runtime runtime) ⟨!position.isSome⟩).Returns
      (At (some (c, created)) pending' known) fun _ =>
        At position (position.isSome && pending') known) :
    ∃ r u, ((Script.within body next).perform b scope past).run w = (.ok r, u) ∧
      ((∃ e, r = .error e ∧ failed e u.backend) ∨ ∃ pending' past',
        (Script.within body next).tell limit position.isSome pending (known.map Prod.snd) past =
          .ok (pending', past') ∧ r = .ok past' ∧ At position pending' known u.backend) := by
  have told_of_body {breach : Breach}
      (htold : (body (past ++ [(Outcome.entered !position.isSome).report true])).tell limit true
        pending (known.map Prod.snd) (past ++ [(Outcome.entered !position.isSome).report true]) =
          .error breach) : refuses breach := by
    refine hrefuses breach ?_
    rw [Script.tell, htold]
    rfl
  obtain ⟨r, u, hinside, hu⟩ := hbody _ _ (.inside c created pending known)
    (fun _ => told_of_body) v hv
  rw [← stands.strings_eq] at hinside
  rcases hu with ⟨e, rfl, hfailed⟩ | ⟨pending₁, past₁, htold, rfl, hu⟩
  · obtain ⟨_, x, hexit, hx⟩ := h.leaveFailed e ⟨!position.isSome⟩ u hfailed
    exact ⟨_, x, Script.run_within henter (h.attached hv) hinside hexit rfl, .inl ⟨e, rfl, hx⟩⟩
  · obtain ⟨_, x, hexit, hx⟩ := hleave pending₁ u hu
    have htell : (Script.within body next).tell limit position.isSome pending (known.map Prod.snd)
        past = (next (past₁ ++ [(Outcome.left !position.isSome).report position.isSome])).tell limit
          position.isSome (position.isSome && pending₁) (known.map Prod.snd)
          (past₁ ++ [(Outcome.left !position.isSome).report position.isSome]) := by
      rw [Script.tell]
      exact congrArg (· >>= _) htold
    rw [htell] at hrefuses ⊢
    obtain ⟨r, y, hnextrun, hy⟩ := hnext _ _ (stands.behind pending₁) hrefuses x hx
    refine ⟨r, y, ?_, hy⟩
    rw [Script.run_within henter (h.attached hv) hinside hexit (h.attached hx)]
    exact hnextrun

theorem performs_within (h : b.Agrees limit runtime refuses failed At) {inside : Bool}
    {body : List Report → Script true} {next : List Report → Script inside}
    (hbody : ∀ past, Performs b limit refuses failed At (body past))
    (hnext : ∀ past, Performs b limit refuses failed At (next past)) :
    Performs b limit refuses failed At (.within body next) := by
  intro position pending known scope past stands hrefuses w hw
  rcases position with _ | ⟨c, created⟩
  · obtain ⟨rfl, rfl⟩ : pending = false ∧ known = [] := by
      cases stands
      exact ⟨rfl, rfl⟩
    obtain ⟨_, v, henter, ⟨e, rfl, hfailed⟩ | ⟨c, rfl, hv⟩⟩ := h.enter w hw
    · exact ⟨_, v, Script.run_within_refused henter, .inl ⟨e, rfl, hfailed⟩⟩
    · exact h.performs_entered hbody hnext stands hrefuses henter hv fun pending' =>
        h.leave c pending' []
  · obtain ⟨_, v, henter, rfl, hv⟩ := h.reuse c created pending known w hw
    exact h.performs_entered hbody hnext stands hrefuses henter hv fun pending' =>
      .pure fun _ => id

/-- The induction is on the script. -/
theorem performs (h : b.Agrees limit runtime refuses failed At) {inside : Bool}
    (script : Script inside) : Performs b limit refuses failed At script := by
  induction script with
  | done =>
    intro position pending known scope past _ _ w hw
    exact ⟨_, w, rfl, .inr ⟨pending, past, rfl, rfl, hw⟩⟩
  | ask request next ih => exact h.performs_ask request ih
  | within body next ihbody ihnext => exact h.performs_within ihbody ihnext

end Backend.Agrees

end ManagedBridge
