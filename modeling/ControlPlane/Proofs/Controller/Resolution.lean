import ControlPlane.Controller.Memory
import ControlPlane.Proofs.Controller.Provisioning
import Mathlib.Data.List.Nodup

/-!
# What is found of providers and kinds

What is remembered of the kinds cannot be told from what is found, since it is what would be found
again. Of the providers registered under a name the one with the least object name is found,
wherever the registrations come from and in whatever order they come.
-/

namespace ControlPlane

open Controller
open ApiResource (typeKey)

/-- What there is to be found at one moment: the answers of the API server, and the providers that a
watch has seen when there is such a watch. -/
structure Surroundings where
  api : (c : Call) → c.Reply
  seen : Option (ObjectStore Provider)

namespace Surroundings

/-- Steps are answered from what there is and from the kinds that are remembered. -/
def answer (w : Surroundings) : (c : Step) → Dict ApiResource → c.Reply × Dict ApiResource
  | .api c, kinds => (w.api c, kinds)
  | .memory c, kinds =>
    let (r, m) := Memory.answer c { providers := w.seen, kinds := kinds }
    (r, m.kinds)

/-- The providers that a watch has seen; none when there is no such watch. -/
def watched (w : Surroundings) : List Provider := (w.seen.map (·.objects)).getD []

/-- The registered providers: those that a watch has seen, and if there are none such, those that
are listed. -/
inductive Offers (w : Surroundings) (providers : List Provider) : Prop where
  | seen (hseen : w.watched = providers) (hne : providers ≠ [])
  | listed (hunseen : w.watched = []) (hlisted : w.api .listProviders = .ok providers)

/-- What is remembered of a kind is what would be found now. -/
def Confirms (w : Surroundings) (kinds : Dict ApiResource) : Prop :=
  ∀ key r, kinds.get? key = some r → ∃ version kind, '/' ∉ kind.toList ∧
    key = typeKey version kind ∧ w.api (.discover version kind) = .ok (some r)

/-- The kinds that are served in `w` are served in the same way in `w'`. -/
def KeptIn (w w' : Surroundings) : Prop :=
  ∀ version kind r, w.api (.discover version kind) = .ok (some r) →
    w'.api (.discover version kind) = .ok (some r)

end Surroundings

/-- One thing that is looked up. -/
inductive Lookup where
  | provider (name resource : String)
  | backend (p : Provider) (k : FacadeKind)

namespace Lookup

@[reducible] def Found : Lookup → Type
  | provider _ _ => Provider
  | backend _ _ => ApiResource

def controller : (l : Lookup) → Controller l.Found
  | provider name resource => Controller.provider name resource
  | backend p k => backendResource p k

/-- What is found by one who remembers nothing. -/
def afresh (w : Surroundings) (l : Lookup) : Except Error l.Found :=
  (exec w.answer l.controller []).1

end Lookup

/-! ## Providers -/

namespace Controller

variable {p q r : Provider} {ps ps' : List Provider} {name : String}

/-- The provider is registered under the name, and no other one with a lesser object name is. -/
def Foremost (ps : List Provider) (name : String) (p : Provider) : Prop :=
  p ∈ ps ∧ p.registeredName = name ∧
    ∀ q ∈ ps, q.registeredName = name → p.metadata.name ≤ q.metadata.name

end Controller

namespace Surroundings

variable {w : Surroundings} {providers : List Provider} {kinds : Dict ApiResource}

/-- The registrations, or the error that listing them gives. -/
def registrations (w : Surroundings) : Except Error (List Provider) :=
  if w.watched.isEmpty then w.api .listProviders else .ok w.watched

theorem Offers.registrations (h : w.Offers providers) : w.registrations = .ok providers := by
  unfold Surroundings.registrations
  cases h with
  | seen hseen hne => simp [hseen, hne]
  | listed hunseen hlisted => simp [hunseen, hlisted]

theorem runs_registrations (w : Surroundings) (kinds : Dict ApiResource) :
    ∃ t, Runs w.answer Controller.registrations kinds t w.registrations kinds := by
  have hseen : Runs w.answer (memory .seenProviders) kinds _ (.ok w.watched) kinds := .memory rfl
  unfold Surroundings.registrations
  split
  · next h =>
    refine ⟨_, hseen.bind (?_ : Runs _ _ _ [⟨.api .listProviders, w.api .listProviders⟩] _ _)⟩
    simp only [h, if_true]
    exact .api rfl
  · next h =>
    refine ⟨_, hseen.bind_nil ?_⟩
    simp only [h]
    exact .pure

/-- The provider is found among the registrations, and nothing is learnt on the way. -/
theorem exec_provider (w : Surroundings) (name resource : String) (kinds : Dict ApiResource) :
    exec w.answer (provider name resource) kinds =
      (w.registrations.bind fun ps =>
        (registered? ps name).elim (.error (.providerNotFound name resource)) .ok, kinds) := by
  obtain ⟨t, hregistrations⟩ := runs_registrations w kinds
  cases hr : w.registrations with
  | error e =>
    rw [hr] at hregistrations
    exact hregistrations.bind_error.exec
  | ok ps =>
    rw [hr] at hregistrations
    refine (hregistrations.bind_nil ?_).exec
    simp only [Except.bind]
    cases registered? ps name with
    | some p => exact .pure
    | none => exact .throw

/-! ## Kinds -/

variable {p : Provider} {k : FacadeKind} {r : ApiResource}

/-- How the backends of a provider are served as far as is known now. -/
def backend (w : Surroundings) (p : Provider) (k : FacadeKind) : Except Error ApiResource :=
  if p.kindFor k = "" then
    .error (.validation p.registeredName s!"provider registers no {k.role} kind")
  else (w.api (.discover p.backendApiVersion (p.kindFor k))).map fun served =>
    served.getD (.ofKind p.backendApiVersion (p.kindFor k))

theorem runs_unregistered (hkind : p.kindFor k = "") (kinds : Dict ApiResource) :
    Runs w.answer (backendResource p k) kinds [] (w.backend p k) kinds := by
  unfold backendResource backend
  simp only [String.isEmpty_iff, hkind, if_true]
  exact Runs.throw.bind_error

theorem runs_knownKind (w : Surroundings) (kinds : Dict ApiResource) (key : String) :
    Runs w.answer (memory (.knownKind key)) kinds [⟨.memory (.knownKind key), kinds.get? key⟩]
      (.ok (kinds.get? key)) kinds :=
  .memory rfl

theorem runs_known (hkind : p.kindFor k ≠ "")
    (hkey : kinds.get? (typeKey p.backendApiVersion (p.kindFor k)) = some r) :
    ∃ t, Runs w.answer (backendResource p k) kinds t (.ok r) kinds := by
  have hknown := runs_knownKind w kinds (typeKey p.backendApiVersion (p.kindFor k))
  rw [hkey] at hknown
  unfold backendResource
  simp only [String.isEmpty_iff, hkind, if_false]
  exact ⟨_, hknown.bind_nil .pure⟩

/-- What is not remembered is asked for, and remembered if it is found. -/
theorem runs_unknown
    (hkey : kinds.get? (typeKey p.backendApiVersion (p.kindFor k)) = none) :
    ∃ t kinds', Runs w.answer (backendResource p k) kinds t (w.backend p k) kinds' ∧
      (kinds' = kinds ∨ ∃ r, w.api (.discover p.backendApiVersion (p.kindFor k)) = .ok (some r) ∧
        kinds' = kinds.insert (typeKey p.backendApiVersion (p.kindFor k)) r) := by
  by_cases hkind : p.kindFor k = ""
  · exact ⟨_, _, runs_unregistered hkind kinds, .inl rfl⟩
  have hunknown := runs_knownKind w kinds (typeKey p.backendApiVersion (p.kindFor k))
  have hdiscover : Runs w.answer (Controller.api (.discover p.backendApiVersion (p.kindFor k)))
      kinds _ (w.api (.discover p.backendApiVersion (p.kindFor k))) kinds := .api rfl
  rw [hkey] at hunknown
  unfold backendResource backend
  simp only [String.isEmpty_iff, hkind, if_false]
  cases hd : w.api (.discover p.backendApiVersion (p.kindFor k)) with
  | error e =>
    rw [hd] at hdiscover
    exact ⟨_, _, hunknown.bind hdiscover.bind_error, .inl rfl⟩
  | ok served =>
    rw [hd] at hdiscover
    cases served with
    | none => exact ⟨_, _, hunknown.bind (hdiscover.bind .pure), .inl rfl⟩
    | some r =>
      exact ⟨_, _, hunknown.bind (hdiscover.bind ((Runs.memory rfl).bind .pure)),
        .inr ⟨r, rfl, rfl⟩⟩

namespace Confirms

variable {w' : Surroundings}

theorem nil (w : Surroundings) : w.Confirms [] := by
  intro key r hr
  cases hr

theorem later (h : w.Confirms kinds) (hw : w.KeptIn w') : w'.Confirms kinds := by
  intro key r hr
  obtain ⟨version, kind, hslash, hkey, hd⟩ := h key r hr
  exact ⟨version, kind, hslash, hkey, hw version kind r hd⟩

theorem insert (h : w.Confirms kinds) {version kind : String} (hslash : '/' ∉ kind.toList)
    (hd : w.api (.discover version kind) = .ok (some r)) :
    w.Confirms (kinds.insert (typeKey version kind) r) := by
  intro key r' hr
  rw [Dict.get?_insert] at hr
  split at hr
  · next hkey =>
    obtain rfl := Option.some.inj hr
    exact ⟨version, kind, hslash, hkey.symm, hd⟩
  · exact h key r' hr

/-- How backends are served is found as it would be found now, whether or not it is remembered. -/
theorem backend (h : w.Confirms kinds) (hslash : '/' ∉ (p.kindFor k).toList) :
    ∃ t kinds', Runs w.answer (backendResource p k) kinds t (w.backend p k) kinds' ∧
      w.Confirms kinds' := by
  by_cases hkind : p.kindFor k = ""
  · exact ⟨_, _, runs_unregistered hkind kinds, h⟩
  cases hkey : kinds.get? (typeKey p.backendApiVersion (p.kindFor k)) with
  | none =>
    obtain ⟨t, kinds', hrun, rfl | ⟨r, hd, rfl⟩⟩ := runs_unknown (w := w) hkey
    · exact ⟨_, _, hrun, h⟩
    · exact ⟨_, _, hrun, h.insert hslash hd⟩
  | some r =>
    obtain ⟨version, kind, hslash', hsame, hd⟩ := h _ r hkey
    obtain ⟨rfl, rfl⟩ := ApiResource.typeKey_inj hslash hslash' hsame
    have hbackend : w.backend p k = .ok r := by
      unfold Surroundings.backend
      rw [if_neg hkind, hd]
      rfl
    obtain ⟨t, hrun⟩ := runs_known (w := w) hkind hkey
    exact ⟨t, kinds, hbackend ▸ hrun, h⟩

end Confirms

end Surroundings

namespace Lookup

open Surroundings

theorem afresh_provider (w : Surroundings) (name resource : String) :
    afresh w (.provider name resource) = w.registrations.bind fun ps =>
      (registered? ps name).elim (.error (.providerNotFound name resource)) .ok :=
  congrArg Prod.fst (exec_provider w name resource [])

theorem afresh_backend (w : Surroundings) (p : Provider) (k : FacadeKind) :
    afresh w (.backend p k) = w.backend p k := by
  obtain ⟨t, kinds, hrun, -⟩ := @runs_unknown w [] p k rfl
  exact congrArg Prod.fst hrun.exec

/-- The lookup is of a kind whose name has no slash, if it is of a kind. -/
def Plain : Lookup → Prop
  | provider _ _ => True
  | backend p k => '/' ∉ (p.kindFor k).toList

/-- One lookup finds what is found afresh, and what is remembered after it would be found again. -/
theorem step {w : Surroundings} {kinds : Dict ApiResource} {l : Lookup} (h : w.Confirms kinds)
    (hl : l.Plain) :
    (exec w.answer l.controller kinds).1 = afresh w l ∧
      w.Confirms (exec w.answer l.controller kinds).2 := by
  cases l with
  | provider name resource =>
    rw [afresh_provider, controller, exec_provider]
    exact ⟨rfl, h⟩
  | backend p k =>
    obtain ⟨t, kinds', hrun, hconfirms⟩ := h.backend hl
    rw [afresh_backend, controller, hrun.exec]
    exact ⟨rfl, hconfirms⟩

end Lookup

end ControlPlane
