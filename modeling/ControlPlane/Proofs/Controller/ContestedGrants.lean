import ControlPlane.Proofs.Controller.PartialGrants
import ControlPlane.Proofs.Controller.Privileges
import ControlPlane.Proofs.Controller.Sharing

/-!
# Grants under contention

Others may write roles and bindings while the grants controller runs, and some of its writes meet
conflicts then. A conflict ends what is done for one grant and nothing else: the run goes through
the other grants and asks to be repeated soon. A grant whose own writes met no conflict is there in
the end, as long as nobody else touches its role and its binding.
-/

namespace ControlPlane

/-! ## Conflicts -/

/-- A write met a conflict. -/
def Event.Conflicted : Event → Prop
  | ⟨.api c, r⟩ => ¬ Step.IsLookup (.api c) ∧ ∃ e, r = .error e ∧ e.isConflict = true
  | ⟨.memory _, _⟩ => False

/-- Nothing fails but writes that meet conflicts. -/
def OnlyConflicts (t : List Event) : Prop := ∀ e ∈ t, e.Succeeded ∨ e.Conflicted

theorem Event.Conflicted.not_succeeded {e : Event} (h : e.Conflicted) : ¬ e.Succeeded := by
  obtain ⟨c, r⟩ := e
  cases c with
  | memory c => exact h.elim
  | api c =>
    obtain ⟨-, e, rfl, -⟩ := h
    rintro ⟨a, ha⟩
    cases ha

theorem Event.Conflicted.not_isLookup {e : Event} (h : e.Conflicted) : ¬ e.1.IsLookup := by
  obtain ⟨c, r⟩ := e
  cases c with
  | memory c => exact h.elim
  | api c => exact h.1

namespace OnlyConflicts

variable {t t' : List Event}

theorem left (h : OnlyConflicts (t ++ t')) : OnlyConflicts t :=
  fun e he => h e (List.mem_append_left _ he)

theorem right (h : OnlyConflicts (t ++ t')) : OnlyConflicts t' :=
  fun e he => h e (List.mem_append_right _ he)

theorem succeeded (h : OnlyConflicts t) (ht : ¬ ∃ e ∈ t, e.Conflicted) :
    ∀ e ∈ t, e.Succeeded :=
  fun e he => (h e he).resolve_right fun hconflict => ht ⟨e, he, hconflict⟩

/-- Lookups do not fail. -/
theorem succeeded_of_lookups (h : OnlyConflicts t) (ht : ∀ e ∈ t, e.1.IsLookup) :
    ∀ e ∈ t, e.Succeeded :=
  h.succeeded fun ⟨_, he, hconflict⟩ => hconflict.not_isLookup (ht _ he)

end OnlyConflicts

namespace Controller

variable {α σ : Type} {answer : (c : Step) → σ → c.Reply × σ} {x : Controller α} {s s' : σ}
  {t : List Event}

/-- Where every failure ends the controller, it comes to a result or ends with a conflict. -/
theorem Propagates.of_onlyConflicts (hx : Propagates answer x) {r : Except Error α}
    (h : Runs answer x s t r s') (ht : OnlyConflicts t) :
    (¬ ∃ e ∈ t, e.Conflicted) ∧ (∃ a, r = .ok a) ∨
      (∃ e ∈ t, e.Conflicted) ∧ ∃ e, r = .error e ∧ e.isConflict = true := by
  by_cases hconflict : ∃ e ∈ t, e.Conflicted
  · refine .inr ⟨hconflict, ?_⟩
    obtain ⟨⟨c, reply⟩, he, hwrite⟩ := hconflict
    cases c with
    | memory c => exact hwrite.elim
    | api c =>
      obtain ⟨-, e, rfl, hconflict⟩ := hwrite
      exact ⟨e, hx.fails _ _ _ _ h c e he, hconflict⟩
  · exact .inl ⟨hconflict, hx.reliable _ _ _ _ h (ht.succeeded hconflict)⟩

variable {v : ViewedObject} {subjects : SubjectSet} {role : Role} {binding : RoleBinding}

/-- What is done for a grant is done for its role and its binding, and a conflict there is told. -/
theorem establish_inv {g : Grant} (hrole : g.viewed.role = .ok role)
    (hbinding : g.viewed.binding g.subjects = .ok binding) {r : Except Error Bool}
    (h : Runs answer (establish g) s t r s') :
    ∃ r', Runs answer (converge g.viewed.scope role binding) s t r' s' ∧
      (∀ a, r' = .ok a → r = .ok true) ∧
      ∀ e, r' = .error e → e.isConflict = true → r = .ok false := by
  rw [establish_of_ok hrole hbinding] at h
  obtain ⟨_, hfirst⟩ := h.bind_pure_inv
  obtain ⟨r', hconverge⟩ := hfirst.unlessConflict_inv
  refine ⟨r', hconverge, ?_, ?_⟩
  · rintro a rfl
    exact (h.unique (hconverge.unlessConflict.bind_nil .pure)).2.1
  · rintro e rfl he
    exact (h.unique ((hconverge.unlessConflict_conflict he).bind_nil .pure)).2.1

/-- What is done for a grant comes to a result, which tells whether there was a conflict. -/
theorem establish_conflicts {g : Grant} (hg : g.viewed.Ownable) {r : Except Error Bool}
    (h : Runs answer (establish g) s t r s') (ht : OnlyConflicts t) :
    ∃ b, r = .ok b ∧ (b = false ↔ ∃ e ∈ t, e.Conflicted) := by
  obtain ⟨role, binding, hrole, hbinding⟩ := hg.exists_artifacts g.subjects
  obtain ⟨r', hconverge, hdone, hmet⟩ := establish_inv hrole hbinding h
  rcases (converge_propagates hrole hbinding).of_onlyConflicts hconverge ht with
    ⟨hnone, a, hok⟩ | ⟨hconflict, e, herror, he⟩
  · exact ⟨true, hdone a hok, by simp [hnone]⟩
  · exact ⟨false, hmet e herror he, by simp [hconflict]⟩

/-- A conflict for one grant does not keep the others from being dealt with. -/
theorem establishAll_conflicts {grants : List Grant} (hgrants : ∀ g ∈ grants, g.viewed.Ownable)
    {r : Except Error Bool} (h : Runs answer (establishAll grants) s t r s')
    (ht : OnlyConflicts t) : ∃ b, r = .ok b ∧ (b = false ↔ ∃ e ∈ t, e.Conflicted) := by
  induction grants generalizing s t r s' with
  | nil =>
    obtain ⟨rfl, rfl, -⟩ := h.unique .pure
    exact ⟨true, rfl, by simp⟩
  | cons g rest ih =>
    obtain ⟨hg, hrest⟩ := List.forall_mem_cons.1 hgrants
    rcases h.bind_inv with ⟨e, hfirst, -⟩ | ⟨b, t₁, s₁, t₂, hfirst, hrun, rfl⟩
    · obtain ⟨b, hb, -⟩ := establish_conflicts hg hfirst ht
      cases hb
    obtain ⟨b, hb, hsettled⟩ := establish_conflicts hg hfirst ht.left
    cases hb
    rcases hrun.bind_inv with ⟨e, hothers, -⟩ | ⟨b', t₃, s₂, t₄, hothers, hend, rfl⟩
    · obtain ⟨b, hb, -⟩ := ih hrest hothers ht.right
      cases hb
    obtain ⟨rfl, rfl, -⟩ := hend.unique .pure
    obtain ⟨b', hb', hrestored⟩ := ih hrest hothers ht.right.left
    cases hb'
    refine ⟨b && b', rfl, ?_⟩
    rw [Bool.and_eq_false_iff, hsettled, hrestored, List.append_nil]
    simp only [List.mem_append, or_and_right, exists_or]

end Controller

/-! ## One grant among other writers -/

namespace ViewedObject

variable {v v' : ViewedObject} {subjects : SubjectSet} {s s' s'' : Cluster}

/-- Order is kept, and the role and the binding of the object stay as they are. -/
structure Leaves (v : ViewedObject) (s s' : Cluster) : Prop where
  orderly : s.Orderly → s'.Orderly
  find : s.Orderly → ∀ target, v.Owns target → s'.find? target = s.find? target

namespace Leaves

theorem refl (v : ViewedObject) (s : Cluster) : v.Leaves s s := ⟨id, fun _ _ _ => rfl⟩

theorem trans (h : v.Leaves s s') (h' : v.Leaves s' s'') : v.Leaves s s'' where
  orderly hs := h'.orderly (h.orderly hs)
  find hs target howns := (h'.find (h.orderly hs) target howns).trans (h.find hs target howns)

theorem of_changes {T : Target → Prop} (h : s.Orderly → Cluster.Changes T s s')
    (hT : ∀ target, v.Owns target → ¬ T target) : v.Leaves s s' where
  orderly hs := (h hs).orderly hs
  find hs target howns := by
    refine (h hs).find target ?_ (hT target howns)
    rcases howns with rfl | rfl
    · exact Cluster.role_isAccess _ _
    · exact Cluster.binding_isAccess _ _

theorem getRole (h : v.Leaves s s') (hs : s.Orderly) :
    (s'.answer (.getRole v.scope v.roleName)).1 = (s.answer (.getRole v.scope v.roleName)).1 := by
  simp only [Cluster.answer, Cluster.get, h.find hs _ (.inl rfl)]

theorem getBinding (h : v.Leaves s s') (hs : s.Orderly) :
    (s'.answer (.getBinding v.scope v.roleName)).1 =
      (s.answer (.getBinding v.scope v.roleName)).1 := by
  simp only [Cluster.answer, Cluster.get, h.find hs _ (.inr rfl)]

theorem hasRole (h : v.Leaves s s') (hs : s.Orderly) (hrole : v.HasRole s) : v.HasRole s' := by
  obtain ⟨role, hget, hrules⟩ := hrole
  exact ⟨role, (h.getRole hs).trans hget, hrules⟩

theorem hasBinding (h : v.Leaves s s') (hs : s.Orderly) (hbinding : v.HasBinding subjects s) :
    v.HasBinding subjects s' := by
  obtain ⟨binding, hget, hsame⟩ := hbinding
  exact ⟨binding, (h.getBinding hs).trans hget, hsame⟩

end Leaves

/-- Where nothing but others write, and these leave the object's role and binding alone, both
stay. -/
theorem leaves_of_serves {t : List Event}
    (ht : ∀ e ∈ t, ∀ s c, e.1 = .api c → v.Leaves s (s.answer c).2)
    (h : Cluster.Serves v.Leaves s t s') : v.Leaves s s' :=
  h.leads (Leaves.refl v) Leaves.trans id ht

end ViewedObject

/-- The step writes the role or the binding of the object. -/
def Step.WritesFor (c : Step) (v : ViewedObject) : Prop :=
  (∃ rules, c.WritesRules v.scope v.roleName rules) ∨ c.WritesBinding v.scope v.roleName

/-- The step leaves the role and the binding of the object as they are, wherever it is taken. -/
def Step.Spares (v : ViewedObject) (c : Step) : Prop :=
  ∀ call, c = .api call → ∀ s : Cluster, v.Leaves s (s.answer call).2

theorem Step.IsLookup.spares {c : Step} (h : c.IsLookup) (v : ViewedObject) : c.Spares v := by
  rintro call rfl s
  have hsame : (s.answer call).2 = s := congrArg System.cluster (System.answer_lookup h ⟨s, {}⟩)
  rw [hsame]
  exact .refl v s

namespace ViewedObject

variable {v v' : ViewedObject} {subjects : SubjectSet} {c : Step}

/-- What is done for one object leaves the role and the binding of another one alone. -/
theorem Performs.spares (hplaced : v'.Placed)
    (hne : (v'.scope, v'.roleName) ≠ (v.scope, v.roleName)) (h : v'.Performs subjects c) :
    c.Spares v := by
  have hothers {target : Target} (howns : v'.Owns target) :
      ∀ target', v.Owns target' → ¬ target' = target := by
    rintro _ howns' rfl
    exact hne (howns.same howns')
  rintro call heq s
  cases h with
  | getRole =>
    exact Step.IsLookup.spares (c := .api (.getRole v'.scope v'.roleName)) trivial v _ heq s
  | getBinding =>
    exact Step.IsLookup.spares (c := .api (.getBinding v'.scope v'.roleName)) trivial v _ heq s
  | createRole h =>
    cases heq
    obtain ⟨owner, -, rfl⟩ := role_eq_ok.1 h
    exact .of_changes (fun _ => Cluster.changes_createRole s
      (artifactMetadata_valid _ _ owner) hplaced) (hothers (.inl rfl))
  | patchRules version =>
    cases heq
    exact .of_changes (fun hs => hs.changes_withMember (Cluster.role_isAccess _ _) version
      (by decide) (Codec.Writes.list AccessRule.codec_writes _ fun _ _ => trivial).canonical)
      (hothers (.inl rfl))
  | createBinding h =>
    cases heq
    obtain ⟨owner, -, rfl⟩ := binding_eq_ok.1 h
    exact .of_changes (fun _ => Cluster.changes_createBinding s
      (artifactMetadata_valid _ _ owner) hplaced) (hothers (.inr rfl))
  | deleteBinding =>
    cases heq
    exact .of_changes (fun _ => Cluster.changes_removed (Cluster.binding_isAccess _ _))
      (hothers (.inr rfl))
  | patchSubjects version =>
    cases heq
    exact .of_changes (fun hs => hs.changes_withMember (Cluster.binding_isAccess _ _) version
      (by decide) (Codec.Writes.list BindingSubject.codec_writes _ fun _ _ => trivial).canonical)
      (hothers (.inr rfl))

/-- A step that is taken for an object looks something up or writes its role or its binding. -/
theorem Performs.writesFor (h : v.Performs subjects c) : c.IsLookup ∨ c.WritesFor v := by
  cases h with
  | getRole | getBinding => exact .inl trivial
  | createRole h =>
    obtain ⟨owner, -, rfl⟩ := role_eq_ok.1 h
    exact .inr (.inl ⟨_, .create _ _⟩)
  | patchRules version => exact .inr (.inl ⟨_, .patch _ _ _ _⟩)
  | createBinding h =>
    obtain ⟨owner, -, rfl⟩ := binding_eq_ok.1 h
    exact .inr (.inr (.create _ _))
  | deleteBinding => exact .inr (.inr (.delete _ _))
  | patchSubjects version => exact .inr (.inr (.patch _ _ _ _))

end ViewedObject

namespace Controller

variable {α β σ : Type} {answer : (c : Step) → σ → c.Reply × σ} {x : Controller α}
  {f : α → Controller β} {v : ViewedObject} {subjects : SubjectSet} {role : Role}
  {binding : RoleBinding} {c : Cluster}

/-- If no step fails and others leave the object's role and binding alone, the controller comes to a
result and a cluster that satisfy `Q`. -/
def Secures (answer : (c : Step) → σ → c.Reply × σ) (v : ViewedObject) (x : Controller α)
    (c : Cluster) (Q : α → Cluster → Prop) : Prop :=
  ∀ s t r s' c', Runs answer x s t r s' → Cluster.Serves v.Leaves c t c' →
    (∀ e ∈ t, e.Succeeded) → ∃ a, r = .ok a ∧ Q a c'

namespace Secures

variable {Q Q' : α → Cluster → Prop} {R : β → Cluster → Prop}

protected theorem pure {a : α} (h : ∀ c', v.Leaves c c' → Q a c') :
    Secures answer v (pure a) c Q := by
  intro s t r s' c' hrun hserves _
  obtain ⟨rfl, rfl, -⟩ := hrun.unique .pure
  exact ⟨a, rfl, h c' (ViewedObject.leaves_of_serves (by simp) hserves)⟩

/-- Others may have written before the call is answered and may write afterwards. -/
protected theorem api {call : Call} {Q : call.Answer → Cluster → Prop}
    (h : ∀ c₁ a c₂ c', v.Leaves c c₁ → c₁.answer call = (.ok a, c₂) → v.Leaves c₂ c' → Q a c') :
    Secures answer v (api call) c Q := by
  intro s t r s' c' hrun hserves ht
  obtain ⟨-, rfl⟩ := hrun.api_inv
  obtain ⟨a, rfl⟩ := ht _ (List.mem_singleton_self _)
  obtain ⟨c₁, c₂, hbefore, hanswers, hafter⟩ := hserves.cons_inv
  exact ⟨a, rfl, h c₁ a c₂ c' (ViewedObject.leaves_of_serves (by simp) hbefore) hanswers.eq_of_ok
    (ViewedObject.leaves_of_serves (by simp) hafter)⟩

/-- A write that succeeds whatever others have done before brings about what they let stay. -/
theorem write {call : Call} {a : call.Answer} {I : Cluster → Prop}
    (hI : ∀ c c', v.Leaves c c' → I c → I c')
    (h : ∀ c₁, v.Leaves c c₁ → ∃ c₂, c₁.answer call = (.ok a, c₂) ∧ I c₂) :
    Secures answer v (Controller.api call) c fun _ c' => I c' := by
  refine .api ?_
  intro c₁ _ c₂ c' hbefore hwritten hafter
  obtain ⟨_, hwritten', hc₂⟩ := h c₁ hbefore
  obtain ⟨-, rfl⟩ := Prod.mk.inj (hwritten.symm.trans hwritten')
  exact hI c₂ c' hafter hc₂

protected theorem bind (hx : Secures answer v x c Q)
    (hf : ∀ a c', Q a c' → Secures answer v (f a) c' R) : Secures answer v (x >>= f) c R := by
  intro s t r s' c' hrun hserves ht
  rcases hrun.bind_inv with ⟨e, hfirst, rfl⟩ | ⟨a, t₁, s₁, t₂, hfirst, hrest, rfl⟩
  · obtain ⟨_, hr, -⟩ := hx _ _ _ _ _ hfirst hserves ht
    cases hr
  · obtain ⟨c₁, hserves, hserves'⟩ := hserves.append_inv
    obtain ⟨ht₁, ht₂⟩ := List.forall_mem_append.1 ht
    obtain ⟨_, hr, ha⟩ := hx _ _ _ _ _ hfirst hserves ht₁
    cases hr
    exact hf a c₁ ha _ _ _ _ _ hrest hserves' ht₂

protected theorem ite {p : Prop} [Decidable p] {y : Controller α}
    (hx : p → Secures answer v x c Q) (hy : ¬ p → Secures answer v y c Q) :
    Secures answer v (if p then x else y) c Q := by
  split
  · next hp => exact hx hp
  · next hp => exact hy hp

end Secures

/-! ## What is secured for one grant -/

theorem secures_convergeRole (hc : c.Orderly) (hplaced : v.Placed) (hrole : v.role = .ok role) :
    Secures answer v (convergeRole v.scope role) c fun b c' =>
      b = true ∧ c'.Orderly ∧ v.HasRole c' := by
  rw [convergeRole_eq hrole]
  refine .bind (Q := fun found c' => c'.Orderly ∧
    (c'.answer (.getRole v.scope v.roleName)).1 = .ok found) (.api ?_) ?_
  · rintro c₁ found c₂ c' hbefore hfound hafter
    obtain rfl : c₁ = c₂ := congrArg Prod.snd hfound
    have hc₁ := hbefore.orderly hc
    exact ⟨hafter.orderly hc₁, (hafter.getRole hc₁).trans (congrArg Prod.fst hfound)⟩
  rintro found c ⟨hc, hfound⟩
  have hstays : ∀ c c', v.Leaves c c' → c.Orderly ∧ v.HasRole c → c'.Orderly ∧ v.HasRole c' :=
    fun c c' h hhas => ⟨h.orderly hhas.1, h.hasRole hhas.1 hhas.2⟩
  have hdone {c₁ : Cluster} (h : c₁.Orderly ∧ v.HasRole c₁) :
      Secures answer v (pure true) c₁ fun b c' => b = true ∧ c'.Orderly ∧ v.HasRole c' :=
    .pure fun c' hafter => ⟨rfl, hstays c₁ c' hafter h⟩
  cases found with
  | none =>
    refine .bind (.write (a := ()) hstays fun c₁ hbefore => ?_) fun _ _ h => hdone h
    obtain ⟨owner, -, rfl⟩ := ViewedObject.role_eq_ok.1 hrole
    obtain ⟨c₂, role, hcreate, hchanges, hget, hrules, -⟩ := Cluster.exists_createRole
      (r := ⟨artifactMetadata v.artifactNs v.roleName owner, some v.rules⟩)
      (ViewedObject.artifactMetadata_valid _ _ owner) hplaced ((hbefore.getRole hc).trans hfound)
    exact ⟨c₂, hcreate, hchanges.orderly (hbefore.orderly hc), role, hget, hrules⟩
  | some found =>
    refine .ite (fun _ => ?_) fun hsame => hdone ⟨hc, found, hfound, ?_⟩
    · refine .bind (.write (a := ()) hstays fun c₁ hbefore => ?_) fun _ _ h => hdone h
      obtain ⟨c₂, role, hpatch, hchanges, hget, hrules, -⟩ :=
        (hbefore.orderly hc).exists_patchRules ((hbefore.getRole hc).trans hfound) v.rules
      exact ⟨c₂, hpatch, hchanges.orderly (hbefore.orderly hc), role, hget, hrules⟩
    · exact ViewedObject.rules_eq_of_getD (Decidable.not_not.1 hsame)

end Controller

namespace ViewedObject

variable {v : ViewedObject} {subjects : SubjectSet} {c c' : Cluster} {b b' : Cluster → Prop}

/-- The role of the object is there, and of its binding `b` is true. -/
structure Stands (v : ViewedObject) (b : Cluster → Prop) (c : Cluster) : Prop where
  orderly : c.Orderly
  role : v.HasRole c
  binding : b c

theorem Stands.leaves (hb : ∀ c c', v.Leaves c c' → c.Orderly → b c → b c') (c c' : Cluster)
    (h : v.Leaves c c') (hc : v.Stands b c) : v.Stands b c' :=
  ⟨h.orderly hc.orderly, h.hasRole hc.orderly hc.role, hb c c' h hc.orderly hc.binding⟩

/-- A change of the binding leaves the role alone. -/
theorem Stands.changed (hc : v.Stands b c)
    (h : Cluster.Changes (· = Cluster.binding v.scope v.roleName) c c') (hb : b' c') :
    v.Stands b' c' :=
  ⟨h.orderly hc.orderly, hc.role.mono h (role_ne_binding _ _), hb⟩

/-- The binding is found, or it is found that there is none. -/
def Finds (v : ViewedObject) (found : Option RoleBinding) (c : Cluster) : Prop :=
  (c.answer (.getBinding v.scope v.roleName)).1 = .ok found

theorem Finds.leaves {found : Option RoleBinding} (c c' : Cluster) (h : v.Leaves c c')
    (hc : c.Orderly) (hfound : v.Finds found c) : v.Finds found c' := (h.getBinding hc).trans hfound

theorem HasBinding.leaves (c c' : Cluster) (h : v.Leaves c c') (hc : c.Orderly)
    (hbinding : v.HasBinding subjects c) : v.HasBinding subjects c' := h.hasBinding hc hbinding

end ViewedObject

namespace Controller

open ViewedObject (Stands Finds)

variable {σ : Type} {answer : (c : Step) → σ → c.Reply × σ} {v : ViewedObject}
  {subjects : SubjectSet} {role : Role} {binding : RoleBinding} {c : Cluster}

theorem secures_createBinding (hplaced : v.Placed) (hbinding : v.binding subjects = .ok binding)
    (hc : v.Stands (v.Finds none) c) :
    Secures answer v (api (.createBinding v.scope binding)) c fun _ c' =>
      v.Stands (v.HasBinding subjects) c' := by
  refine .write (a := ()) (Stands.leaves ViewedObject.HasBinding.leaves) fun c₁ hbefore => ?_
  have hc₁ := hc.leaves Finds.leaves c c₁ hbefore
  obtain ⟨owner, -, rfl⟩ := ViewedObject.binding_eq_ok.1 hbinding
  obtain ⟨c₂, found, hcreate, hchanges, hget, href, hsubjects, -⟩ := Cluster.exists_createBinding
    (b := ⟨artifactMetadata v.artifactNs v.roleName owner, v.roleRef, some subjects.toBindings⟩)
    (ViewedObject.artifactMetadata_valid _ _ owner) hplaced hc₁.binding
  exact ⟨c₂, hcreate, hc₁.changed hchanges ⟨found, hget, href, by rw [hsubjects]; rfl⟩⟩

theorem secures_convergeBinding (hc : c.Orderly ∧ v.HasRole c) (hplaced : v.Placed)
    (hbinding : v.binding subjects = .ok binding) :
    Secures answer v (convergeBinding v.scope binding) c fun _ c' =>
      v.Stands (v.HasBinding subjects) c' := by
  rw [convergeBinding_eq hbinding]
  refine .bind (Q := fun found c' => v.Stands (v.Finds found) c') (.api ?_) ?_
  · rintro c₁ found c₂ c' hbefore hfound hafter
    obtain rfl : c₁ = c₂ := congrArg Prod.snd hfound
    have hc₁ : v.Stands (v.Finds found) c₁ :=
      ⟨hbefore.orderly hc.1, hbefore.hasRole hc.1 hc.2, congrArg Prod.fst hfound⟩
    exact hc₁.leaves Finds.leaves c₁ c' hafter
  rintro found c hc
  cases found with
  | none => exact secures_createBinding hplaced hbinding hc
  | some found =>
    refine .ite (fun _ => ?_) fun href => .ite (fun _ => ?_) fun hsame => .pure ?_
    · refine .bind (.write (a := ()) (Stands.leaves Finds.leaves) fun c₁ hbefore => ?_)
        fun _ c₂ hc₂ => secures_createBinding hplaced hbinding hc₂
      have hc₁ := hc.leaves Finds.leaves c c₁ hbefore
      obtain ⟨c₂, hdelete, hremoved, hnone⟩ := hc₁.orderly.deleteBinding v.scope v.roleName
      exact ⟨c₂, hdelete, hc₁.changed hremoved hnone⟩
    · refine .write (a := ()) (Stands.leaves ViewedObject.HasBinding.leaves) fun c₁ hbefore => ?_
      have hc₁ := hc.leaves Finds.leaves c c₁ hbefore
      obtain ⟨c₂, found', hpatch, hchanges, hget, href', hsubjects, -⟩ :=
        hc₁.orderly.exists_patchSubjects hc₁.binding subjects.toBindings
      refine ⟨c₂, hpatch, hc₁.changed hchanges
        ⟨found', hget, href'.trans (Decidable.not_not.1 href), ?_⟩⟩
      rw [hsubjects]
      rfl
    · intro c' hafter
      have hhas : v.HasBinding subjects c :=
        ⟨found, hc.binding, Decidable.not_not.1 href, Decidable.not_not.1 hsame⟩
      exact Stands.leaves ViewedObject.HasBinding.leaves c c' hafter ⟨hc.orderly, hc.role, hhas⟩

/-- A grant is there once what is done for it has succeeded. -/
theorem secures_establish {g : Grant} (hc : c.Orderly) (hplaced : g.viewed.Placed)
    (hg : g.viewed.Ownable) :
    Secures answer g.viewed (establish g) c fun _ c' =>
      g.viewed.Stands (g.viewed.HasBinding g.subjects) c' := by
  obtain ⟨role, binding, hrole, hbinding⟩ := hg.exists_artifacts g.subjects
  have hconverge : Secures answer g.viewed (converge g.viewed.scope role binding) c fun _ c' =>
      g.viewed.Stands (g.viewed.HasBinding g.subjects) c' := by
    refine .bind (secures_convergeRole hc hplaced hrole) ?_
    rintro _ c₁ ⟨rfl, hc₁⟩
    exact secures_convergeBinding hc₁ hplaced hbinding
  intro s t r s' c' hrun hserves ht
  obtain ⟨r', hfirst, hdone, -⟩ := establish_inv hrole hbinding hrun
  obtain ⟨a, hok, hstands⟩ := hconverge _ _ _ _ _ hfirst hserves ht
  exact ⟨true, hdone a hok, hstands⟩

/-! ## Whole runs -/

theorem establishAll_performs (grants : List Grant) :
    Only (fun c => ∃ g ∈ grants, g.viewed.Performs g.subjects c) (establishAll grants) := by
  induction grants with
  | nil => exact .pure
  | cons g rest ih =>
    refine .bind (Program.Only.mono (establish_performs g) fun c hc => ⟨g, List.mem_cons_self, hc⟩)
      fun _ => .bind (Program.Only.mono ih ?_) fun _ => .pure
    rintro c ⟨g', hg', hc⟩
    exact ⟨g', List.mem_cons_of_mem _ hg', hc⟩

/-- What is done for other grants leaves the role and the binding of an object alone. -/
theorem leaves_of_performed {t : List Event} {c' : Cluster} {grants : List Grant}
    (ht : ∀ e ∈ t, ∃ g ∈ grants, g.viewed.Performs g.subjects e.1)
    (hplaced : ∀ g ∈ grants, g.viewed.Placed)
    (hne : ∀ g ∈ grants, (g.viewed.scope, g.viewed.roleName) ≠ (v.scope, v.roleName))
    (h : Cluster.Serves v.Leaves c t c') : v.Leaves c c' := by
  refine ViewedObject.leaves_of_serves (fun e he s call heq => ?_) h
  obtain ⟨g, hg, hperforms⟩ := ht e he
  exact hperforms.spares (hplaced g hg) (hne g hg) call heq s

/-- A grant none of whose own writes met a conflict is there in the end. -/
theorem stands_establishAll {grants : List Grant} (hplaced : ∀ g ∈ grants, g.viewed.Placed)
    (hgrants : ∀ g ∈ grants, g.viewed.Ownable)
    (hdistinct : (grants.map fun g => (g.viewed.scope, g.viewed.roleName)).Nodup) {g : Grant}
    (hg : g ∈ grants) {s s' : σ} {t : List Event} {r : Except Error Bool} {c' : Cluster}
    (h : Runs answer (establishAll grants) s t r s') (ht : OnlyConflicts t)
    (hown : ∀ e ∈ t, e.Conflicted → ¬ e.1.WritesFor g.viewed) (hc : c.Orderly)
    (hserves : Cluster.Serves g.viewed.Leaves c t c') :
    g.viewed.Stands (g.viewed.HasBinding g.subjects) c' := by
  induction grants generalizing s s' t r c with
  | nil => cases hg
  | cons g₀ rest ih =>
    obtain ⟨hplaced₀, hplacedRest⟩ := List.forall_mem_cons.1 hplaced
    obtain ⟨hg₀, hgrantsRest⟩ := List.forall_mem_cons.1 hgrants
    obtain ⟨hnew, hdistinct⟩ := List.nodup_cons.1 hdistinct
    have hothers : ∀ g' ∈ rest, (g'.viewed.scope, g'.viewed.roleName) ≠
        (g₀.viewed.scope, g₀.viewed.roleName) :=
      fun g' hg' heq => hnew (List.mem_map.2 ⟨g', hg', heq⟩)
    rcases h.bind_inv with ⟨e, hfirst, rfl⟩ | ⟨b, t₁, s₁, t₂, hfirst, hrun, rfl⟩
    · obtain ⟨b, hb, -⟩ := establish_conflicts hg₀ hfirst ht
      cases hb
    obtain ⟨_, hrun⟩ := hrun.bind_pure_inv
    obtain ⟨c₁, hserves₁, hserves₂⟩ := hserves.append_inv
    have hperforms := (establish_performs g₀).forall_events hfirst
    rcases List.mem_cons.1 hg with rfl | hg
    · have hsucceeded : ∀ e ∈ t₁, e.Succeeded := by
        refine ht.left.succeeded ?_
        rintro ⟨e, he, hconflict⟩
        rcases (hperforms e he).writesFor with hlookup | hwrites
        · exact hconflict.not_isLookup hlookup
        · exact hown e (List.mem_append_left _ he) hconflict hwrites
      obtain ⟨_, -, hstands⟩ :=
        secures_establish hc hplaced₀ hg₀ _ _ _ _ _ hfirst hserves₁ hsucceeded
      refine hstands.leaves ViewedObject.HasBinding.leaves c₁ c' ?_
      exact leaves_of_performed ((establishAll_performs rest).forall_events hrun) hplacedRest
        hothers hserves₂
    · have hfirst : ∀ e ∈ t₁, ∃ g ∈ [g₀], g.viewed.Performs g.subjects e.1 :=
        fun e he => ⟨g₀, List.mem_singleton_self g₀, hperforms e he⟩
      have hleaves : g.viewed.Leaves c c₁ :=
        leaves_of_performed hfirst (by simpa using hplaced₀) (by simpa using (hothers g hg).symm)
          hserves₁
      exact ih hplacedRest hgrantsRest hdistinct hg hrun ht.right
        (fun e he => hown e (List.mem_append_right _ he)) (hleaves.orderly hc) hserves₂

end Controller

/-- The objects have names of their own, and each can own others. -/
structure Metadata.Owners (objects : List Metadata) : Prop where
  names : (objects.map (·.anyName)).Nodup
  identified : ∀ m ∈ objects, m.name ≠ none ∧ m.uid ≠ none

theorem ViewedObject.ownable_of_identified {v : ViewedObject}
    (h : v.metadata.name ≠ none ∧ v.metadata.uid ≠ none) : v.Ownable := by
  obtain ⟨name, hname⟩ := Option.ne_none_iff_exists'.1 h.1
  obtain ⟨uid, huid⟩ := Option.ne_none_iff_exists'.1 h.2
  refine ⟨⟨planeApiVersion, v.kind, name, uid, some true, none⟩, ?_⟩
  simp only [ViewedObject.owner, Metadata.ownerReference, Metadata.ownerReference?, hname, huid]

namespace Namespace

open Controller

variable {σ : Type} {answer : (c : Step) → σ → c.Reply × σ} {s s' : σ} {t : List Event}
  {n : Namespace} {interval : Duration} {r : Except Error Action}

/-- The tenants that the run was told of have names of their own and can own their artifacts, and so
can the inventories. -/
structure ToldOwners (n : Namespace) (t : List Event) : Prop where
  tenants : ∀ tenants, (⟨.api (.listTenants n.metadata.anyName), .ok tenants⟩ : Event) ∈ t →
    Metadata.Owners (tenants.map (·.metadata))
  inventories : ∀ inventories,
    (⟨.api (.listInventories n.metadata.anyName), .ok inventories⟩ : Event) ∈ t →
    Metadata.Owners (inventories.map (·.metadata))

section Asked

variable {t' : List Event} {gs : Grants} {v : ViewedObject} {c c' : Cluster}

theorem ToldOwners.mono (h : n.ToldOwners t') (ht : t ⊆ t') : n.ToldOwners t :=
  ⟨fun tenants htenants => h.tenants tenants (ht htenants),
    fun inventories hinventories => h.inventories inventories (ht hinventories)⟩

theorem ToldOwners.ownable (h : n.ToldOwners t)
    (hask : Runs answer (grants n.metadata.anyName) s t (.ok gs) s') :
    ∀ g ∈ gs.tenants ++ gs.inventories, g.viewed.Ownable := by
  obtain ⟨inventories, tenants, viewers, _, _, t', rfl, -, -, rfl⟩ := grants_told hask
  intro g hg
  refine ViewedObject.ownable_of_identified ?_
  rcases mem_grantsFor hg with ⟨t, ht, hviewed⟩ | ⟨i, hi, hviewed⟩
  · exact hviewed ▸ (h.tenants tenants (by simp)).identified _ (List.mem_map_of_mem ht)
  · exact hviewed ▸ (h.inventories inventories (by simp)).identified _ (List.mem_map_of_mem hi)

theorem ToldOwners.nodup (h : n.ToldOwners t)
    (hask : Runs answer (grants n.metadata.anyName) s t (.ok gs) s') :
    ((gs.tenants ++ gs.inventories).map fun g => (g.viewed.scope, g.viewed.roleName)).Nodup := by
  obtain ⟨inventories, tenants, viewers, _, _, t', rfl, -, -, rfl⟩ := grants_told hask
  have htenants := (h.tenants tenants (by simp)).names
  have hinventories := (h.inventories inventories (by simp)).names
  rw [List.map_map] at htenants hinventories
  exact nodup_roleNames htenants hinventories

/-- What a run is told of lies in the namespace that it asks about. -/
theorem placed_of_asked (hask : Runs answer (grants n.metadata.anyName) s t (.ok gs) s')
    (hserves : c.Serves v.Leaves t c') (hc : c.Orderly) :
    ∀ g ∈ gs.tenants ++ gs.inventories, g.viewed.Placed := by
  obtain ⟨inventories, tenants, viewers, _, _, t', rfl, -, -, rfl⟩ := grants_told hask
  obtain ⟨c₁, _, hbefore, hlisted, -⟩ := hserves.cons_inv
  have hc₁ := (ViewedObject.leaves_of_serves (by simp) hbefore).orderly hc
  intro g hg
  exact placed_grantsFor (s := ⟨c₁, {}⟩) hc₁ (congrArg Prod.fst hlisted.eq_of_ok) hg

theorem lookups_of_asked {r : Except Error Grants}
    (hask : Runs answer (grants n.metadata.anyName) s t r s') : ∀ e ∈ t, e.1.IsLookup :=
  fun e he => isLookup_of_isGrantQuestion ((grants_only _).forall_events hask e he)

end Asked

/-- The grant is there in the end if none of its own writes met a conflict and nobody else touched
its role and its binding. -/
def Holds (g : Grant) (t : List Event) : Prop :=
  (∀ e ∈ t, e.Conflicted → ¬ e.1.WritesFor g.viewed) → ∀ c c' : Cluster, c.Orderly →
    c.Serves g.viewed.Leaves t c' → g.viewed.HasRole c' ∧ g.viewed.HasBinding g.subjects c'

/-- What a run comes to and what it leaves behind where nothing fails but writes that meet
conflicts. -/
structure Absorbs (interval : Duration) (t : List Event) (r : Except Error Action) (gs : Grants) :
    Prop where
  conflicted : (∃ e ∈ t, e.Conflicted) → r = .ok (.requeue conflictPause)
  settled : (¬ ∃ e ∈ t, e.Conflicted) → r = .ok (.requeue interval)
  holds : ∀ g ∈ gs.tenants ++ gs.inventories, Holds g t

/-- What is done when the grants are known comes to a result, and all of it but the use of the
memory in the end is done for the grants. -/
theorem settle_conflicts {gs : Grants} (hgs : ∀ g ∈ gs.tenants ++ gs.inventories, g.viewed.Ownable)
    (h : Runs answer (settle interval n gs) s t r s') (ht : OnlyConflicts t) :
    ∃ t₁ t₂ b s₁, t = t₁ ++ t₂ ∧ (∀ e ∈ t₂, ∃ c, e.1 = .memory c) ∧
      Runs answer (establishAll (gs.tenants ++ gs.inventories)) s t₁ (.ok b) s₁ ∧
      (b = false ↔ ∃ e ∈ t, e.Conflicted) ∧
      r = .ok (.requeue (if b then interval else conflictPause)) := by
  rcases h.bind_inv with ⟨e, hfirst, -⟩ | ⟨b, t₁, s₁, t₂, hfirst, hrest, rfl⟩
  · obtain ⟨b, hb, -⟩ := establishAll_conflicts hgs hfirst ht
    cases hb
  obtain ⟨b, hb, hconflict⟩ := establishAll_conflicts hgs hfirst ht.left
  cases hb
  have honly : Only (fun c => ∃ call, c = .memory call) (if b then do
        memory (.forgetFailures .grants n.metadata.anyName)
        return .requeue interval
      else return .requeue conflictPause : Controller Action) :=
    .ite (.bind (.memory ⟨_, rfl⟩) fun _ => .pure) .pure
  have hmemory := honly.forall_events hrest
  have hnone : ¬ ∃ e ∈ t₂, e.Conflicted := by
    rintro ⟨⟨c, reply⟩, he, hconflict⟩
    obtain ⟨call, rfl⟩ := hmemory _ he
    exact hconflict
  refine ⟨t₁, t₂, b, s₁, rfl, hmemory, hfirst, ?_, ?_⟩
  · simp only [hconflict, List.mem_append, or_and_right, exists_or, hnone, or_false]
  · cases b with
    | true =>
      obtain ⟨t', hend, -⟩ := Runs.memory_bind_inv hrest
      exact (hend.unique .pure).2.1
    | false => exact (hrest.unique .pure).2.1

/-- A run that meets conflicts asks to be repeated soon, and one that meets none comes to its usual
end. Either way all grants hold but those whose own writes met a conflict. -/
theorem reconcile_absorbs (hn : n.metadata.deletionTimestamp = none)
    (h : Runs answer (n.reconcile interval) s t r s') (ht : OnlyConflicts t)
    (htold : n.ToldOwners t) : ∃ gs t₁ s₁,
      Runs answer (grants n.metadata.anyName) s t₁ (.ok gs) s₁ ∧ Absorbs interval t r gs := by
  rw [reconcile_eq_settle hn] at h
  rcases h.bind_inv with ⟨e, hask, -⟩ | ⟨gs, t₁, s₁, t₂, hask, hrest, rfl⟩
  · obtain ⟨_, hgs⟩ := (grants_propagates _).reliable _ _ _ _ hask
      (ht.succeeded_of_lookups (lookups_of_asked hask))
    cases hgs
  have hfirst : n.ToldOwners t₁ := htold.mono (List.subset_append_left t₁ t₂)
  obtain ⟨t₃, t₄, b, s₂, rfl, hmemory, hrun, hb, rfl⟩ :=
    settle_conflicts (hfirst.ownable hask) hrest ht.right
  have hconflict : b = false ↔ ∃ e ∈ t₁ ++ (t₃ ++ t₄), e.Conflicted := by
    have hnone : ¬ ∃ e ∈ t₁, e.Conflicted :=
      fun ⟨e, he, hconflict⟩ => hconflict.not_isLookup (lookups_of_asked hask e he)
    rw [hb, iff_comm]
    simp only [List.mem_append (s := t₁), or_and_right, exists_or, hnone, false_or]
  refine ⟨gs, t₁, s₁, hask, fun h => ?_, fun h => ?_, fun g hg hown c c' hc hserves => ?_⟩
  · rw [hconflict.2 h]
    rfl
  · rw [Bool.of_not_eq_false (mt hconflict.1 h)]
    rfl
  -- The run asks, then it deals with the grants, and in the end it uses its memory.
  obtain ⟨c₁, hserves₁, hserves⟩ := hserves.append_inv
  obtain ⟨c₂, hserves₂, hserves₃⟩ := hserves.append_inv
  have hasked : g.viewed.Leaves c c₁ := ViewedObject.leaves_of_serves (fun e he s call heq =>
    (lookups_of_asked hask e he).spares g.viewed call heq s) hserves₁
  have hstands := stands_establishAll (placed_of_asked hask hserves₁ hc) (hfirst.ownable hask)
    (hfirst.nodup hask) hg hrun ht.right.left
    (fun e he => hown e (List.mem_append_right _ (List.mem_append_left _ he)))
    (hasked.orderly hc) hserves₂
  have hremembered : g.viewed.Leaves c₂ c' := by
    refine ViewedObject.leaves_of_serves (fun e he s call heq => ?_) hserves₃
    obtain ⟨_, hcall⟩ := hmemory e he
    cases hcall.symm.trans heq
  have hend := hstands.leaves ViewedObject.HasBinding.leaves c₂ c' hremembered
  exact ⟨hend.role, hend.binding⟩

end Namespace

end ControlPlane
