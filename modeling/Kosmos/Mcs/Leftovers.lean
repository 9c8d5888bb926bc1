import Kosmos.Mcs.Owners

/-!
# What an export or an import leaves behind

Both controllers act first and put the finalizer on afterwards.
-/

namespace Kosmos.McsOwners

open Go Mcs

def Exists (t : Task) (s : State) : Prop := (s.owner t).isSome = true

def Terminating (t : Task) (s : State) : Prop := ∃ o, s.owner t = some o ∧ o.terminating = true

def Clean : Task → State → Prop
  | .serviceExport k, s =>
    ∀ x ∈ s.slices.objects, isOfService k.1 k.2 x.slice = true → x.marked = false
  | .serviceImport leaf k, s =>
    (∀ x ∈ (s.leaves leaf).services.objects, x.key = k → imported x.annotations = false) ∧
      ∀ x ∈ (s.leaves leaf).slices.objects, isOfService k.1 k.2 x = true →
        imported x.annotations = false

instance (t : Task) (s : State) : Decidable (Exists t s) := inferInstanceAs (Decidable (_ = true))

instance : (t : Task) → (s : State) → Decidable (Clean t s)
  | .serviceExport k, s => inferInstanceAs (Decidable
      (∀ x ∈ s.slices.objects, isOfService k.1 k.2 x.slice = true → x.marked = false))
  | .serviceImport leaf k, s => inferInstanceAs (Decidable
      ((∀ x ∈ (s.leaves leaf).services.objects, x.key = k → imported x.annotations = false) ∧
        ∀ x ∈ (s.leaves leaf).slices.objects, isOfService k.1 k.2 x = true →
          imported x.annotations = false))

/-- All events have been reconciled. -/
def Quiet (w : World) (t : Task) : Prop := t ∉ w.queue ∧ w.pool.get? t = none

/-- Nothing is left of an object that is gone, once all is quiet. -/
def NothingLeft (w : World) : Prop := ∀ t, ¬ Exists t w.state → Quiet w t → Clean t w.state

/-- The object is there, or nothing is left of it. -/
def Safe (t : Task) (s : State) : Prop := Exists t s ∨ Clean t s

def AptCall (t : Task) (a : Answer) (s : State) : Op → Prop
  | .listSlices k => a.read = none → Terminating (.serviceExport k) s →
      ∀ x ∈ s.slices.objects, isOfService k.1 k.2 x.slice = true → x.marked = true →
        x.terminating = false
  | .getSlice j => a.read = none → ∀ x, s.slices.get? j = some x →
      isOfService t.key.1 t.key.2 x.slice = true
  | .getService leaf k => a.read = none → Terminating (.serviceImport leaf k) s →
      (∀ x, (s.leaves leaf).services.get? k = some x → imported x.annotations = false) →
        Clean (.serviceImport leaf k) s
  | .deleteService leaf k => (s.leaves leaf).services.get? k = none →
      Clean (.serviceImport leaf k) s
  | _ => True

/-- An object that others take away has left nothing, and is not being reconciled. -/
def AptLoss (w : World) (t : Task) : Prop := Clean t w.state ∧ w.pool.get? t = none

def Apt (w : World) : Event → Prop
  | .deleted t => ∀ o, w.state.owner t = some o → o.finalizers = [] → AptLoss w t
  | .edited t _ finalizers => Terminating t w.state → finalizers = [] → AptLoss w t
  | .call t a => ∀ op next, w.pool.get? t = some (.call op next) → AptCall t a w.state op
  | _ => True

inductive Place where
  | service
  | slice (key : Key)

def Remains : Task → Place → State → Prop
  | .serviceExport _, .service, _ => False
  | .serviceExport k, .slice j, s =>
    s.slices.Has (fun x => isOfService k.1 k.2 x.slice && x.marked) j
  | .serviceImport leaf k, .service, s =>
    (s.leaves leaf).services.Has (fun x => imported x.annotations) k
  | .serviceImport leaf k, .slice j, s =>
    (s.leaves leaf).slices.Has (fun x => isOfService k.1 k.2 x && imported x.annotations) j

variable {t t' : Task} {s s' : State} {p : Place} {a : Answer}

theorem clean_iff : Clean t s ↔ ∀ p, ¬ Remains t p s := by
  constructor
  · intro hclean p hp
    cases t with
    | serviceExport k =>
      cases p with
      | service => exact hp
      | slice j =>
        obtain ⟨x, hx, -, hmark⟩ := Store.has_iff_mem.mp hp
        rw [Bool.and_eq_true] at hmark
        rw [hclean x hx hmark.1] at hmark
        exact nomatch hmark.2
    | serviceImport leaf k =>
      cases p with
      | service =>
        obtain ⟨x, hx, hkey, hmark⟩ := Store.has_iff_mem.mp hp
        rw [hclean.1 x hx hkey] at hmark
        cases hmark
      | slice j =>
        obtain ⟨x, hx, -, hmark⟩ := Store.has_iff_mem.mp hp
        rw [Bool.and_eq_true] at hmark
        rw [hclean.2 x hx hmark.1] at hmark
        exact nomatch hmark.2
  · intro hnone
    cases t with
    | serviceExport k =>
      intro x hx hof
      refine Bool.eq_false_iff.mpr fun hmark => hnone (.slice x.key) ?_
      exact Store.has_iff_mem.mpr ⟨x, hx, rfl, by rw [hof, hmark]; rfl⟩
    | serviceImport leaf k =>
      constructor
      · intro x hx hkey
        refine Bool.eq_false_iff.mpr fun hmark => hnone .service ?_
        exact Store.has_iff_mem.mpr ⟨x, hx, hkey, hmark⟩
      · intro x hx hof
        refine Bool.eq_false_iff.mpr fun hmark => hnone (.slice x.key) ?_
        exact Store.has_iff_mem.mpr ⟨x, hx, rfl, by rw [hof, hmark]; rfl⟩

theorem Clean.of_remains (h : Clean t s) (hremains : ∀ p, Remains t p s' → Remains t p s) :
    Clean t s' :=
  clean_iff.mpr fun p hp => clean_iff.mp h p (hremains p hp)

variable {owners' : Owners} {op : Op}

section OwnerLemmas

variable {owners : Owners} {o : Owner} {x : InHand Owner} {k : Key}

theorem get?_settle (hsome : (owners.get? o.key).isSome = true) (k : Key) :
    (owners.settle o).get? k =
      if k = o.key then if o.terminating = true ∧ o.finalizers = [] then none else some o
      else owners.get? k := by
  unfold Owners.settle
  split
  next hgoes => exact Store.get?_remove k
  next hstays => exact Store.get?_overwrite hsome k

def Holding (x : InHand Owner) : Prop :=
  x.value.finalizers ≠ [] ∨ ∃ o, x.read = some o ∧ o.finalizers = x.value.finalizers

theorem put_eq_ok {new : Owner} (h : owners.put x = .ok (new, owners')) :
    ∃ cur, owners.get? x.value.key = some cur ∧ x.Current cur ∧ new.key = x.value.key ∧
      new.finalizers = x.value.finalizers ∧ new.terminating = cur.terminating ∧
      owners' = owners.settle new := by
  unfold Owners.put at h
  split at h
  · cases h
  next cur hcur =>
    split at h
    · cases h
    next hcurrent =>
      split at h
      · cases h
      · cases h
        exact ⟨cur, hcur, not_not.mp hcurrent, rfl, rfl, rfl, rfl⟩

theorem put_get?_ne {new : Owner} (h : owners.put x = .ok (new, owners')) (hne : k ≠ x.value.key) :
    owners'.get? k = owners.get? k := by
  obtain ⟨cur, hcur, -, hkey, -, -, rfl⟩ := put_eq_ok h
  rw [← hkey] at hcur hne
  rw [get?_settle (Option.isSome_of_eq_some hcur)]
  exact if_neg hne

theorem put_stays {new : Owner} (hholding : Holding x) (h : owners.put x = .ok (new, owners')) :
    ∃ cur, owners.get? x.value.key = some cur ∧ owners'.get? x.value.key = some new ∧
      new.terminating = cur.terminating := by
  obtain ⟨cur, hcur, hcurrent, hkey, hfinalizers, hterminating, rfl⟩ := put_eq_ok h
  refine ⟨cur, hcur, ?_, hterminating⟩
  rw [← hkey] at hcur ⊢
  rw [get?_settle (Option.isSome_of_eq_some hcur)]
  refine (if_pos rfl).trans (if_neg ?_)
  rintro ⟨hdeleted, hnone⟩
  rcases hholding with hsome | ⟨o, hread, hsame⟩
  · exact hsome (hfinalizers.symm.trans hnone)
  · rcases hcurrent with hnothing | hcurrent
    · rw [hread] at hnothing
      cases hnothing
    · -- what was read is still there, and it is held
      cases Option.some.inj (hread.symm.trans hcurrent)
      refine owners.held cur (Store.get?_eq_some.mp hcur).1 (hterminating.symm.trans hdeleted) ?_
      rw [hsame, ← hfinalizers, hnone]

end OwnerLemmas

section States

variable {leaf : String} {l : Leaf} {owners : Owners}

theorem leaves_setLeaf (name : String) :
    (s.setLeaf leaf l).leaves name = if name = leaf then l else s.leaves name := by
  unfold State.setLeaf
  exact Function.update_apply s.leaves leaf l name

theorem owner_setLeaf (himports : l.imports = (s.leaves leaf).imports) :
    (s.setLeaf leaf l).owner t = s.owner t := by
  cases t with
  | serviceExport k => rfl
  | serviceImport name k =>
    simp only [State.owner, State.owners, leaves_setLeaf]
    split
    next hname => rw [himports, hname]
    · rfl

theorem owner_setOwners_self : (s.setOwners t owners).owner t = owners.get? t.key := by
  cases t with
  | serviceExport k => rfl
  | serviceImport name k =>
    simp [State.owner, State.owners, State.setOwners, leaves_setLeaf]

theorem owner_setOwners_ne (hne : t' ≠ t)
    (howners : ∀ k, k ≠ t.key → owners.get? k = (s.owners t).get? k) :
    (s.setOwners t owners).owner t' = s.owner t' := by
  cases t with
  | serviceExport k =>
    cases t' with
    | serviceImport => rfl
    | serviceExport k' => exact howners k' fun heq => hne (congrArg _ heq)
  | serviceImport name k =>
    cases t' with
    | serviceExport => rfl
    | serviceImport name' k' =>
      simp only [State.owner, State.owners, State.setOwners, leaves_setLeaf]
      split
      next hname =>
        rw [hname] at hne ⊢
        exact howners k' fun heq => hne (congrArg _ heq)
      · rfl

theorem remains_setOwners : Remains t' p (s.setOwners t owners) ↔ Remains t' p s := by
  cases t with
  | serviceExport k => cases t' <;> cases p <;> exact Iff.rfl
  | serviceImport name k =>
    cases t' with
    | serviceExport => cases p <;> exact Iff.rfl
    | serviceImport name' k' =>
      have hleaf : ((s.setOwners (.serviceImport name k) owners).leaves name').services =
            (s.leaves name').services ∧
          ((s.setOwners (.serviceImport name k) owners).leaves name').slices =
            (s.leaves name').slices := by
        simp only [State.setOwners, leaves_setLeaf]
        split
        next hname => exact ⟨hname ▸ rfl, hname ▸ rfl⟩
        · exact ⟨rfl, rfl⟩
      cases p <;> simp only [Remains, hleaf]

theorem clean_setOwners : Clean t' (s.setOwners t owners) ↔ Clean t' s := by
  simp only [clean_iff, remains_setOwners]

end States

def Op.Allowed (t : Task) (s : State) : Op → Prop
  | .updateOwner t' x => t' = t ∧ x.value.key = t.key ∧ (Clean t s ∨ Holding x)
  | .updateSlice x => x.value.marked = true →
      ∃ k, t = .serviceExport k ∧ isOfService k.1 k.2 x.value.slice = true ∧ Exists t s
  | .createService leaf x => t = .serviceImport leaf x.key ∧ Exists t s
  | .updateService leaf x => t = .serviceImport leaf x.value.key ∧ Exists t s
  | .createSlice leaf x =>
      ∃ k, t = .serviceImport leaf k ∧ isOfService k.1 k.2 x = true ∧ Exists t s
  | .updateLeafSlice leaf x => x.read = some x.value ∨
      ∃ k, t = .serviceImport leaf k ∧ isOfService k.1 k.2 x.value = true ∧ Exists t s
  | _ => True

theorem made_eq_ok {σ : Type} {result : Except ApiError σ} {u : Unit} {st : σ}
    (h : made result = .ok (u, st)) : result = .ok st := by
  cases result with
  | error e => cases h
  | ok st' =>
    cases h
    rfl

theorem delete_notFound {α κ : Type} {key : α → κ} [DecidableEq κ] {st : Store key} {k : κ}
    (h : made (st.delete k) = .error .notFound) : st.get? k = none := by
  unfold Store.delete at h
  split at h
  · cases h
  next hnone => exact Option.not_isSome_iff_eq_none.mp hnone

def Op.writesOwner : Op → Bool
  | .updateOwner _ _ => true
  | _ => false

theorem exec_owner (hop : op.Allowed t s) (hne : t' ≠ t ∨ op.writesOwner = false) :
    (exec a s op).2.owner t' = s.owner t' := by
  cases op with
  | updateOwner t₁ x =>
    obtain ⟨rfl, hkey, -⟩ := hop
    refine owner_setOwners_ne (hne.resolve_right fun h => Bool.noConfusion h) fun k hk => ?_
    rcases a.write.to_state ((s.owners t₁).put x) (s.owners t₁) with hsame | ⟨new, hput⟩
    · rw [hsame]
    · exact put_get?_ne hput (hkey ▸ hk)
  | createService leaf x => exact owner_setLeaf rfl
  | updateService leaf x => exact owner_setLeaf rfl
  | deleteService leaf k => exact owner_setLeaf rfl
  | deleteSlices leaf k => exact owner_setLeaf rfl
  | createSlice leaf x => exact owner_setLeaf rfl
  | updateLeafSlice leaf x => exact owner_setLeaf rfl
  | updateSlice x => cases t' <;> rfl
  | getOwner | listSlices | getSlice | rootService | rootSlices | getService | getLeafSlice => rfl

section Leaves

variable {leaf : String} {β : Type} {reply : WriteReply}

theorem remains_setLeaf {l : Leaf} (h : Remains t' p (s.setLeaf leaf l)) :
    Remains t' p s ∨ ∃ k, t' = .serviceImport leaf k ∧
      ((p = .service ∧ l.services.Has (fun x => imported x.annotations) k) ∨
        ∃ j, p = .slice j ∧
          l.slices.Has (fun x => isOfService k.1 k.2 x && imported x.annotations) j) := by
  cases t' with
  | serviceExport k =>
    cases p with
    | service => exact h.elim
    | slice j => exact Or.inl h
  | serviceImport name k =>
    by_cases hname : name = leaf
    · cases hname
      cases p with
      | service =>
        simp only [Remains, leaves_setLeaf, if_true] at h
        exact Or.inr ⟨k, rfl, Or.inl ⟨rfl, h⟩⟩
      | slice j =>
        simp only [Remains, leaves_setLeaf, if_true] at h
        exact Or.inr ⟨k, rfl, Or.inr ⟨j, rfl, h⟩⟩
    · cases p with
      | service => exact Or.inl (by simpa only [Remains, leaves_setLeaf, if_neg hname] using h)
      | slice j => exact Or.inl (by simpa only [Remains, leaves_setLeaf, if_neg hname] using h)

theorem remains_services {result : Except CallError (β × Store Service.key)}
    (h : Remains t' p (s.setLeaf leaf
      { s.leaves leaf with services := (reply.to result (s.leaves leaf).services).2 })) :
    Remains t' p s ∨
      ∃ k x st, t' = .serviceImport leaf k ∧ p = .service ∧ result = .ok (x, st) ∧
        st.Has (fun x => imported x.annotations) k := by
  rcases remains_setLeaf h with hold | ⟨k, rfl, ⟨rfl, hhas⟩ | ⟨j, rfl, hold⟩⟩
  · exact Or.inl hold
  · rcases Store.has_write hhas with hold | ⟨x, st, hok, hnew⟩
    · exact Or.inl hold
    · exact Or.inr ⟨k, x, st, rfl, rfl, hok, hnew⟩
  · exact Or.inl hold

theorem remains_leafSlices {result : Except CallError (β × Store EndpointSlice.key)}
    (h : Remains t' p (s.setLeaf leaf
      { s.leaves leaf with slices := (reply.to result (s.leaves leaf).slices).2 })) :
    Remains t' p s ∨
      ∃ k j x st, t' = .serviceImport leaf k ∧ p = .slice j ∧ result = .ok (x, st) ∧
        st.Has (fun x => isOfService k.1 k.2 x && imported x.annotations) j := by
  rcases remains_setLeaf h with hold | ⟨k, rfl, ⟨rfl, hold⟩ | ⟨j, rfl, hhas⟩⟩
  · exact Or.inl hold
  · exact Or.inl hold
  · rcases Store.has_write hhas with hold | ⟨x, st, hok, hnew⟩
    · exact Or.inl hold
    · exact Or.inr ⟨k, j, x, st, rfl, rfl, hok, hnew⟩

end Leaves

theorem isOfService_inj {k k' : Key} {x : EndpointSlice} (h : isOfService k.1 k.2 x = true)
    (h' : isOfService k'.1 k'.2 x = true) : k = k' := by
  simp only [isOfService, Bool.and_eq_true, decide_eq_true_eq] at h h'
  exact Prod.ext (h.1.symm.trans h'.1) (Option.some.inj (h.2.symm.trans h'.2))

theorem exec_remains (hop : op.Allowed t s) (h : Remains t' p (exec a s op).2) :
    Remains t' p s ∨ (t' = t ∧ Exists t s) := by
  cases op with
  | updateOwner t₁ x => exact Or.inl (remains_setOwners.mp h)
  | updateSlice x =>
    cases t' with
    | serviceImport leaf k => cases p <;> exact Or.inl h
    | serviceExport k =>
      cases p with
      | service => exact h.elim
      | slice j =>
        rcases Store.has_write h with hold | ⟨new, st, hput, hhas⟩
        · exact Or.inl hold
        · obtain ⟨-, hupdate, -⟩ := Store.put_eq_ok hput
          rcases (Store.has_update hupdate).mp hhas with ⟨-, hnew⟩ | ⟨-, hold⟩
          · rw [Bool.and_eq_true] at hnew
            obtain ⟨k', rfl, hof, hexists⟩ := hop hnew.2
            exact Or.inr ⟨congrArg _ (isOfService_inj hnew.1 hof), hexists⟩
          · exact Or.inl hold
  | createService leaf x =>
    rcases remains_services h with hold | ⟨k, new, st, rfl, rfl, hmade, hhas⟩
    · exact Or.inl hold
    · rcases (Store.has_create (made_eq_ok hmade)).mp hhas with ⟨rfl, -⟩ | hold
      · exact Or.inr ⟨hop.1.symm, hop.2⟩
      · exact Or.inl hold
  | updateService leaf x =>
    rcases remains_services h with hold | ⟨k, new, st, rfl, rfl, hput, hhas⟩
    · exact Or.inl hold
    · obtain ⟨-, hupdate, -⟩ := Store.put_eq_ok hput
      rcases (Store.has_update hupdate).mp hhas with ⟨rfl, -⟩ | ⟨-, hold⟩
      · exact Or.inr ⟨hop.1.symm, hop.2⟩
      · exact Or.inl hold
  | deleteService leaf k =>
    rcases remains_services h with hold | ⟨k', new, st, rfl, rfl, hmade, hhas⟩
    · exact Or.inl hold
    · exact Or.inl ((Store.has_delete (made_eq_ok hmade)).mp hhas).2
  | deleteSlices leaf k =>
    rcases remains_leafSlices h with hold | ⟨k', j, new, st, rfl, rfl, hdelete, hhas⟩
    · exact Or.inl hold
    · rw [← (Prod.mk.inj (Except.ok.inj hdelete)).2, Store.has_deleteAllOf] at hhas
      obtain ⟨x, hx, hmark⟩ := hhas
      exact Or.inl ⟨x, hx, (Bool.and_eq_true_iff.mp hmark).1⟩
  | createSlice leaf x =>
    rcases remains_leafSlices h with hold | ⟨k, j, new, st, rfl, rfl, hmade, hhas⟩
    · exact Or.inl hold
    · rcases (Store.has_create (made_eq_ok hmade)).mp hhas with ⟨rfl, hnew⟩ | hold
      · obtain ⟨k', rfl, hof, hexists⟩ := hop
        exact Or.inr ⟨congrArg _ (isOfService_inj (Bool.and_eq_true_iff.mp hnew).1 hof), hexists⟩
      · exact Or.inl hold
  | updateLeafSlice leaf x =>
    rcases remains_leafSlices h with hold | ⟨k, j, new, st, rfl, rfl, hput, hhas⟩
    · exact Or.inl hold
    · obtain ⟨-, hupdate, cur, hcur, hcurrent⟩ := Store.put_eq_ok hput
      rcases (Store.has_update hupdate).mp hhas with ⟨rfl, hnew⟩ | ⟨-, hold⟩
      · rcases hop with hread | ⟨k', rfl, hof, hexists⟩
        · -- what is written is what is there
          rcases hcurrent with hnone | hsome
          · rw [hread] at hnone
            cases hnone
          · cases Option.some.inj (hread.symm.trans hsome)
            exact Or.inl ⟨_, hcur, hnew⟩
        · exact Or.inr
            ⟨congrArg _ (isOfService_inj (Bool.and_eq_true_iff.mp hnew).1 hof), hexists⟩
      · exact Or.inl hold
  | getOwner | listSlices | getSlice | rootService | rootSlices | getService | getLeafSlice =>
    exact Or.inl h

theorem exec_remains_free (op : Op) (hop : ∀ t, op.Allowed t s)
    (h : Remains t p (exec a s op).2) : Remains t p s := by
  obtain ⟨t', hne⟩ : ∃ t', t ≠ t' := by
    cases t with
    | serviceExport k => exact ⟨.serviceImport "" k, fun h => nomatch h⟩
    | serviceImport leaf k => exact ⟨.serviceExport k, fun h => nomatch h⟩
  exact (exec_remains (hop t') h).resolve_right fun h => hne h.1

/-- Others leave the object, in deletion if it was, and nothing new of it. -/
structure Rely (t : Task) (s s' : State) : Prop where
  stays : Exists t s → Exists t s'
  terminating : Terminating t s → Terminating t s'
  remains : ∀ p, Remains t p s' → Remains t p s

theorem Rely.of_owner (howner : s'.owner t = s.owner t)
    (hremains : ∀ p, Remains t p s' → Remains t p s) : Rely t s s' := by
  refine ⟨fun h => ?_, fun h => ?_, hremains⟩
  · rwa [Exists, howner]
  · rwa [Terminating, howner]

theorem Rely.safe (h : Rely t s s') (hsafe : Safe t s) : Safe t s' :=
  hsafe.imp h.stays fun hclean => hclean.of_remains h.remains

theorem exec_rely (hop : op.Allowed t s) (hne : t' ≠ t) : Rely t' s (exec a s op).2 :=
  Rely.of_owner (exec_owner hop (Or.inl hne)) fun _ hp =>
    (exec_remains hop hp).resolve_right fun h => hne h.1

theorem exec_stays {x : InHand Owner} (hkey : x.value.key = t.key) (hholding : Holding x)
    (h : Exists t s) : Exists t (exec a s (.updateOwner t x)).2 := by
  unfold Exists at h ⊢
  rw [show (exec a s (.updateOwner t x)).2 = s.setOwners t _ from rfl, owner_setOwners_self]
  rcases a.write.to_state ((s.owners t).put x) (s.owners t) with hsame | ⟨new, hput⟩
  · rw [hsame]
    exact h
  · obtain ⟨-, -, hstays, -⟩ := put_stays hholding hput
    rw [← hkey, hstays]
    rfl

theorem exec_safe (hop : op.Allowed t s) (hsafe : Safe t s) : Safe t (exec a s op).2 := by
  cases hwrites : op.writesOwner with
  | false =>
    by_cases hexists : Exists t s
    · refine Or.inl ?_
      rwa [Exists, exec_owner hop (Or.inr hwrites)]
    · have hclean := hsafe.resolve_left hexists
      exact Or.inr (hclean.of_remains fun p hp =>
        (exec_remains hop hp).resolve_right fun h => hexists h.2)
  | true =>
    obtain ⟨t', x, rfl⟩ : ∃ t' x, op = .updateOwner t' x := by
      cases op <;> simp [Op.writesOwner] at hwrites ⊢
    obtain ⟨rfl, hkey, hclean | hholding⟩ := hop
    · exact Or.inr (clean_setOwners.mpr hclean)
    · rcases hsafe with hexists | hclean
      · exact Or.inl (exec_stays hkey hholding hexists)
      · exact Or.inr (clean_setOwners.mpr hclean)

def rules (t : Task) : Rules State Op.Res where
  answers := fun op s r s' => ∃ a, AptCall t a s op ∧ exec a s op = (r, s')
  allowed := fun op s => op.Allowed t s
  rely := Rely t

theorem exists_stable (t : Task) : (rules t).Stable (Exists t) := fun _ _ h hrely => hrely.stays h

theorem clean_stable (t : Task) : (rules t).Stable (Clean t) :=
  fun _ _ h hrely => h.of_remains hrely.remains

theorem safe_stable (t : Task) : (rules t).Stable (Safe t) := fun _ _ h hrely => hrely.safe h

theorem Terminating.exists (h : Terminating t s) : Exists t s := by
  obtain ⟨o, ho, -⟩ := h
  exact Option.isSome_of_eq_some ho

theorem holds_ask {P : State → Prop} {Q : op.Res → State → Prop}
    (hQ : ∀ r, (rules t).Stable (Q r)) (hallowed : ∀ s, P s → op.Allowed t s)
    (hanswers : ∀ a s, P s → AptCall t a s op → Q (exec a s op).1 (exec a s op).2) :
    (rules t).Holds Q (ask op) P := by
  refine ⟨Q, hQ, fun s hs => ⟨hallowed s hs, ?_⟩, fun r s hs => hs⟩
  rintro r s' ⟨a, hapt, heq⟩
  have hanswer := hanswers a s hs hapt
  rw [heq] at hanswer
  exact hanswer

theorem exec_exists (hop : op.Allowed t s) (hne : op.writesOwner = false) (h : Exists t s) :
    Exists t (exec a s op).2 := by
  rwa [Exists, exec_owner hop (Or.inr hne)]

def Returned {α : Type} (t : Task) (F : α → Prop) (r : Except CallError α) (s : State) : Prop :=
  Exists t s ∧ ∀ x, r = .ok x → F x

theorem holds_call (op : Op) (F : op.Val → Prop) (hne : op.writesOwner = false)
    (hallowed : ∀ s, Exists t s → op.Allowed t s)
    (hF : ∀ a s, AptCall t a s op → ∀ x, (exec a s op).1 = .ok x → F x) :
    (rules t).Holds (Returned t F) (ask op) (Exists t) :=
  holds_ask (fun _ _ _ h hrely => ⟨hrely.stays h.1, h.2⟩) hallowed fun a s hs hapt =>
    ⟨exec_exists (hallowed s hs) hne hs, hF a s hapt⟩

end Kosmos.McsOwners
