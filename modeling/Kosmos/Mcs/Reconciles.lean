import Kosmos.Mcs.Leftovers

/-!
# The reconciles of exports and imports, among others

What is created is for an object that exists, and a cleanup that succeeds has left nothing.
-/

namespace Kosmos.McsOwners

open Go Mcs

variable {t t' : Task} {s s' : State} {p : Place} {a : Answer}

theorem reads_eq_ok {α : Type} {r : Except CallError α} {x : α} (h : a.reads r = .ok x) :
    a.read = none ∧ r = .ok x := by
  unfold Answer.reads at h
  split at h
  · cases h
  next hread => exact ⟨hread, h⟩

theorem reads_notFound {α : Type} {r : Except CallError α} (h : a.reads r = .error .notFound) :
    a.read = none ∧ r = .error .notFound := by
  unfold Answer.reads at h
  split at h
  next f _ => exact absurd (Except.error.inj h) f.err_ne_notFound
  next hread => exact ⟨hread, h⟩

theorem found_eq_ok {α : Type} {o : Option α} {x : α} (h : found o = .ok x) : o = some x := by
  cases o with
  | none => cases h
  | some y =>
    cases h
    rfl

theorem found_notFound {α : Type} {o : Option α} (h : found o = .error .notFound) : o = none := by
  cases o with
  | none => rfl
  | some y => cases h

theorem key_of_owner {o : Owner} (h : s.owner t = some o) : o.key = t.key :=
  (Store.get?_eq_some.mp h).2

def Syncs {α : Type} (t : Task) (x : Program α) : Prop :=
  (rules t).Holds (fun _ => Exists t) x (Exists t)

section Syncs

variable {α β : Type} {x : Program α}

theorem Syncs.pure (y : α) : Syncs t (pure y) := Rules.Holds.pure fun _ hs => hs

theorem Syncs.bind {f : α → Program β} (hx : Syncs t x) (hf : ∀ y, Syncs t (f y)) :
    Syncs t (x >>= f) :=
  Rules.Holds.bind hx hf

theorem Syncs.call (op : Op) (hne : op.writesOwner = false)
    (hallowed : ∀ s, Exists t s → op.Allowed t s) : Syncs t (ask op) :=
  holds_ask (fun _ => exists_stable t) hallowed fun _ s hs _ => exec_exists (hallowed s hs) hne hs

theorem Syncs.of_updated {x : Program (Option CallError × InHand α)} {G : InHand α → Prop}
    (hx : (rules t).Holds (Updated G (Exists t) (Exists t)) x (Exists t)) : Syncs t x :=
  hx.weaken fun _ _ hs => (ite_self _).mp hs.2

end Syncs

theorem tries_pos (cfg : Config) (h : cfg.tries = 0) : (none : Option CallError) ≠ none :=
  absurd h (Nat.pos_iff_ne_zero.mp (defaultUpdateRetrySteps_pos cfg.steps))

section Finalizer

variable {cfg : Config} {P : State → Prop} {G : InHand Owner → Prop} {modify : Owner → Owner}
  {x : InHand Owner}

theorem updateOwner_holds (hP : (rules t).Stable P) (hkey : ∀ x, G x → x.value.key = t.key)
    (hmodify : ∀ x, G x → G (x.modified modify))
    (hfresh : ∀ o : Owner, o.key = t.key → G (.fresh o))
    (hallowed : ∀ x s, G x → P s → Clean t s ∨ Holding (x.modified modify))
    (hkeeps : ∀ a x s, G x → P s → P (exec a s (.updateOwner t (x.modified modify))).2)
    (hx : G x) :
    (rules t).Holds (Updated G P P) (updateOwner cfg t modify x) P := by
  refine Rules.Holds.retryUpdate hmodify (fun x hx => ?_) ?_ cfg.tries none none x (tries_pos cfg)
    (fun c hc => nomatch hc) hx
  · have hkey' := hkey _ (hmodify x hx)
    refine holds_ask (fun r => hP.answered hP r)
      (fun s hs => ⟨rfl, hkey', hallowed x s hx hs⟩) fun a s hs _ => ?_
    refine Answered.of_same (fun new hnew => hfresh new ?_) (hkeeps a x s hx hs)
    obtain ⟨-, -, -, hnewKey, -⟩ := put_eq_ok (WriteReply.to_eq_ok hnew)
    exact hnewKey.trans hkey'
  · refine holds_ask (fun r => hP.answered hP r) (fun s hs => trivial) fun a s hs _ => ?_
    refine Answered.of_same (fun new hnew => hfresh new ?_) hs
    exact key_of_owner (found_eq_ok (reads_eq_ok hnew).2)

theorem ensureFinalizer_holds (hx : x.value.key = t.key) :
    Syncs t (ensureFinalizer cfg t x) := by
  have hkey : ∀ o : Owner, (addFinalizer o).key = o.key ∧ (addFinalizer o).finalizers ≠ [] := by
    intro o
    unfold addFinalizer
    split
    next hin => exact ⟨rfl, List.ne_nil_of_mem hin⟩
    · exact ⟨rfl, List.append_ne_nil_of_right_ne_nil _ (List.cons_ne_nil _ _)⟩
  unfold ensureFinalizer
  split
  · exact .pure _
  · refine (Syncs.of_updated (updateOwner_holds (G := fun x => x.value.key = t.key)
      (exists_stable t) (fun _ h => h) (fun x h => (hkey x.value).1.trans h) (fun _ h => h)
      (fun x _ _ _ => Or.inr (Or.inl (hkey x.value).2)) (fun a x s h hs => ?_) hx)).bind
      fun r => .pure _
    exact exec_stays ((hkey x.value).1.trans h) (Or.inl (hkey x.value).2) hs

theorem removeFinalizer_holds (hx : x.value.key = t.key) :
    (rules t).Holds (fun _ => Clean t) (removeFinalizer cfg t x) (Clean t) := by
  unfold removeFinalizer
  split
  · exact Rules.Holds.pure fun s hs => hs
  · refine Rules.Holds.bind (updateOwner_holds (G := fun x => x.value.key = t.key) (clean_stable t)
      (fun _ h => h) (fun x h => h) (fun _ h => h) (fun _ _ _ hs => Or.inl hs)
      (fun a x s _ hs => clean_setOwners.mpr hs) hx)
      fun r => Rules.Holds.pure fun s hs => ?_
    exact (ite_self _).mp hs.2

end Finalizer

section Exports

variable {cfg : Config} {k : Key}

def Done (t : Task) (err : Option CallError) (s : State) : Prop :=
  if err = none then Clean t s else Exists t s

theorem exists_updateSlice {x : InHand RootSlice} (h : Exists t s) :
    Exists t (exec a s (.updateSlice x)).2 := by
  cases t <;> exact h

theorem modifySlices_sync (l : List RootSlice)
    (hl : ∀ x ∈ l, isOfService k.1 k.2 x.slice = true)
    {f : GoMap String String → GoMap String String} :
    Syncs (.serviceExport k) (modifySlices cfg (withAnnotations f) l) := by
  have hE := exists_stable (.serviceExport k)
  induction l with
  | nil => exact .pure _
  | cons newEps rest ih =>
    rw [List.forall_mem_cons] at hl
    unfold modifySlices
    split
    · exact ih hl.2
    · have hupdate : Syncs (.serviceExport k)
          (updateEndpointSlice cfg newEps.key (withAnnotations f) (.fresh newEps)) := by
        refine Syncs.of_updated (G := fun x => isOfService k.1 k.2 x.value.slice = true)
          (Rules.Holds.retryUpdate (fun x hx => hx) (fun x hx => ?_) ?_ cfg.tries none none _
            (tries_pos cfg) (fun c hc => nomatch hc) hl.1)
        · refine holds_ask (fun r => hE.answered hE r) (fun s hs _ => ⟨k, rfl, hx, hs⟩)
            fun a s hs _ => ?_
          refine Answered.of_same (fun new hnew => ?_) (exists_updateSlice hs)
          obtain ⟨rfl, -⟩ := Store.put_eq_ok (WriteReply.to_eq_ok hnew)
          exact hx
        · refine holds_ask (fun r => hE.answered hE r) (fun s hs => trivial) fun a s hs hapt => ?_
          refine Answered.of_same (fun new hnew => ?_) hs
          obtain ⟨hread, hfound⟩ := reads_eq_ok hnew
          exact hapt hread new (found_eq_ok hfound)
      refine hupdate.bind fun r => ?_
      split
      · exact .pure _
      · exact ih hl.2

def Within (k : Key) (l : List RootSlice) (s : State) : Prop :=
  Exists (.serviceExport k) s ∧ ∀ p, Remains (.serviceExport k) p s →
    ∃ x ∈ l, x.terminating = false ∧ p = .slice x.key

theorem within_stable (k : Key) (l : List RootSlice) :
    (rules (.serviceExport k)).Stable (Within k l) := fun _ _ h hrely =>
  ⟨hrely.stays h.1, fun p hp => h.2 p (hrely.remains p hp)⟩

theorem Within.tail {newEps : RootSlice} {rest : List RootSlice} (h : Within k (newEps :: rest) s)
    (hnone : ¬ (newEps.terminating = false ∧ Remains (.serviceExport k) (.slice newEps.key) s)) :
    Within k rest s := by
  refine ⟨h.1, fun p hp => ?_⟩
  obtain ⟨x, hx, hterminating, rfl⟩ := h.2 p hp
  rcases List.mem_cons.mp hx with rfl | hx
  · exact absurd ⟨hterminating, hp⟩ hnone
  · exact ⟨x, hx, hterminating, rfl⟩

theorem unmarked (x : RootSlice) :
    (withAnnotations (fun m => m.delete serviceExportLabelKey) x).marked = false := by
  unfold RootSlice.marked hasAnnotation withAnnotations
  rw [GoMap.get?_delete, if_pos rfl]
  rfl

theorem Within.updateSlice {l : List RootSlice} {x : InHand RootSlice} (h : Within k l s)
    (hmark : x.value.marked = false) : Within k l (exec a s (.updateSlice x)).2 := by
  have hallowed : ∀ t, (Op.updateSlice x).Allowed t s := fun t hmarked =>
    nomatch hmark.symm.trans hmarked
  exact ⟨exists_updateSlice h.1, fun p hp => h.2 p (exec_remains_free _ hallowed hp)⟩

theorem updateEndpointSlice_clean (newEps : RootSlice) (rest : List RootSlice) :
    (rules (.serviceExport k)).Holds
      (Updated (fun x => x.value.key = newEps.key) (Within k (newEps :: rest)) (Within k rest))
      (updateEndpointSlice cfg newEps.key
        (withAnnotations fun m => m.delete serviceExportLabelKey) (.fresh newEps))
      (Within k (newEps :: rest)) := by
  have hP := within_stable k (newEps :: rest)
  have hQ := within_stable k rest
  refine Rules.Holds.retryUpdate (fun x hx => hx) (fun x hx => ?_) ?_ cfg.tries none none _
    (tries_pos cfg) (fun c hc => nomatch hc) rfl
  · have hmark := unmarked x.value
    refine holds_ask (fun r => hP.answered hQ r)
      (fun s _ hmarked => nomatch hmark.symm.trans hmarked) fun a s hs _ => ?_
    have hs' := hs.updateSlice (a := a) (x := x.modified _) hmark
    refine Told.intro (fun new hnew => ?_) (fun hgone => ?_) fun _ => hs'
    · obtain ⟨rfl, hupdate, -⟩ := Store.put_eq_ok (WriteReply.to_eq_ok hnew)
      refine ⟨hx, hs'.tail fun h => ?_⟩
      rcases (Store.has_update hupdate).mp h.2 with ⟨-, hmarked⟩ | ⟨hne, -⟩
      · exact nomatch hmark.symm.trans (Bool.and_eq_true_iff.mp hmarked).2
      · exact hne hx.symm
    · have hreply : (a.write.to (s.slices.put (x.modified _)) s.slices).1 =
          .error .notFound := hgone
      obtain ⟨hput, hsame⟩ := WriteReply.to_notFound hreply
      have hnone := Store.put_notFound hput
      refine hs'.tail fun h => ?_
      obtain ⟨y, hy, -⟩ := h.2
      have hsome : s.slices.get? newEps.key = some y := hsame ▸ hy
      rw [← hx] at hsome
      exact nomatch hsome.symm.trans hnone
  · refine holds_ask (fun r => hP.answered hQ r) (fun s hs => trivial) fun a s hs _ => ?_
    refine Told.intro (fun new hnew => ?_) (fun hgone => hs.tail fun h => ?_) fun _ => hs
    · exact ⟨(Store.get?_eq_some.mp (found_eq_ok (reads_eq_ok hnew).2)).2, hs⟩
    · obtain ⟨y, hy, -⟩ := h.2
      exact nomatch hy.symm.trans (found_notFound (reads_notFound hgone).2)

theorem modifySlices_clean (l : List RootSlice) :
    (rules (.serviceExport k)).Holds (Done (.serviceExport k))
      (modifySlices cfg (withAnnotations fun m => m.delete serviceExportLabelKey) l)
      (Within k l) := by
  induction l with
  | nil =>
    refine Rules.Holds.pure fun s hs => (if_pos rfl).mpr (clean_iff.mpr fun p hp => ?_)
    obtain ⟨x, hx, -⟩ := hs.2 p hp
    cases hx
  | cons newEps rest ih =>
    unfold modifySlices
    split
    next hterminating =>
      exact ih.mono fun s hs => hs.tail fun h => nomatch hterminating.symm.trans h.1
    · refine (updateEndpointSlice_clean newEps rest).bind fun r => ?_
      split
      next err _ _ => exact Rules.Holds.pure fun s hs => hs.2.1
      · exact ih.mono fun s hs => hs.2

theorem syncServiceExport_holds (cfg : Config) (k : Key) :
    Syncs (.serviceExport k) (syncServiceExport cfg k) := by
  refine Rules.Holds.bind (holds_call (.listSlices k)
    (fun l => ∀ x ∈ l, isOfService k.1 k.2 x.slice = true) rfl
    (fun _ _ => trivial) fun a s _ l hl x hx => ?_) fun r => ?_
  · cases (reads_eq_ok hl).2
    exact (List.mem_filter.mp hx).2
  · cases r with
    | error e => exact Rules.Holds.pure fun s hs => hs.1
    | ok l =>
      exact (Rules.Holds.of_fact fun hl => modifySlices_sync l (hl l rfl)).mono fun s hs => hs

def ListedWithin (k : Key) : Except CallError (List RootSlice) → State → Prop
  | .ok l => Within k l
  | .error _ => Exists (.serviceExport k)

theorem removeAnnotationOf_holds (cfg : Config) (k : Key) :
    (rules (.serviceExport k)).Holds (Done (.serviceExport k)) (removeAnnotationOf cfg k)
      (Terminating (.serviceExport k)) := by
  have hlist : (rules (.serviceExport k)).Holds (ListedWithin k) (ask (.listSlices k))
      (Terminating (.serviceExport k)) := by
    refine holds_ask (fun r => ?_) (fun _ _ => trivial) fun a s hs hapt => ?_
    · cases r with
      | ok l => exact within_stable k l
      | error e => exact exists_stable _
    · cases hr : (exec a s (.listSlices k)).1 with
      | error e => exact hs.exists
      | ok l =>
        obtain ⟨hread, hl⟩ := reads_eq_ok hr
        cases hl
        refine ⟨hs.exists, fun p hp => ?_⟩
        cases p with
        | service => exact hp.elim
        | slice j =>
          obtain ⟨x, hx, rfl, hmark⟩ := Store.has_iff_mem.mp hp
          obtain ⟨hof, hmarked⟩ := Bool.and_eq_true_iff.mp hmark
          exact ⟨x, List.mem_filter.mpr ⟨hx, hof⟩, hapt hread hs x hx hof hmarked, rfl⟩
  refine hlist.bind fun r => ?_
  cases r with
  | error e => exact Rules.Holds.pure fun s hs => hs
  | ok l => exact modifySlices_clean l

end Exports

section Imports

variable {cfg : Config} {leaf : String} {k : Key}

theorem createOrUpdateServiceInClient_holds {service : Service} (hkey : service.key = k) :
    Syncs (.serviceImport leaf k) (createOrUpdateServiceInClient leaf service) := by
  refine (Syncs.call (.getService leaf service.key) rfl fun _ _ => trivial).bind fun r => ?_
  split
  · refine (Syncs.call (.createService leaf service) rfl fun s hs => ⟨hkey ▸ rfl, hs⟩).bind
      fun r => ?_
    exact .pure _
  · exact .pure _
  next oldService =>
    refine (Syncs.call
      (.updateService leaf ⟨some oldService, { service with clusterIP := oldService.clusterIP }⟩)
      rfl fun s hs => ⟨hkey ▸ rfl, hs⟩).bind fun r => ?_
    exact .pure _

theorem importServiceHandler_holds {rootService : Service} {si : Owner}
    (hservice : rootService.key = k) (hsi : si.key = k) :
    Syncs (.serviceImport leaf k) (importServiceHandler cfg leaf rootService si) := by
  unfold importServiceHandler
  refine Rules.Holds.ofOutcome fun skip _ => ?_
  split
  · exact Syncs.pure _
  · refine Rules.Holds.ofOutcome fun clientService hgenerate => ?_
    refine createOrUpdateServiceInClient_holds ?_
    rw [(LeafServices.generateService_spec hgenerate).1, ← hsi]
    exact Prod.ext rfl ((congrArg Prod.snd hservice).trans (congrArg Prod.snd hsi).symm)

theorem updateLeafSlice_holds {newSlice : EndpointSlice}
    (hof : isOfService k.1 k.2 newSlice = true) :
    Syncs (.serviceImport leaf k) (updateLeafSlice cfg leaf newSlice) := by
  have hE := exists_stable (.serviceImport leaf k)
  refine Syncs.of_updated
    (G := fun x => x.read = some x.value ∨ isOfService k.1 k.2 x.value = true)
    (Rules.Holds.retryUpdate (fun x hx => hx) (fun x hx => ?_) ?_ cfg.tries none none _
      (tries_pos cfg) (fun c hc => nomatch hc) (Or.inr hof))
  · have hallowed : ∀ s, Exists (.serviceImport leaf k) s →
        (Op.updateLeafSlice leaf (x.modified id)).Allowed (.serviceImport leaf k) s :=
      fun s hs => hx.imp_right fun hof => ⟨k, rfl, hof, hs⟩
    refine holds_ask (fun r => hE.answered hE r) hallowed fun a s hs _ => ?_
    exact Answered.of_same (fun new _ => Or.inl rfl) (exec_exists (hallowed s hs) rfl hs)
  · refine holds_ask (fun r => hE.answered hE r) (fun s hs => trivial) fun a s hs _ => ?_
    exact Answered.of_same (fun new _ => Or.inl rfl) hs

theorem importEndpointSliceHandler_holds {si : Owner} {eps : EndpointSlice} (hsi : si.key = k)
    (hof : isOfService k.1 k.2 eps = true) :
    Syncs (.serviceImport leaf k) (importEndpointSliceHandler cfg leaf si eps) := by
  have hnew :
      isOfService k.1 k.2 (retainEndpointSlice (clearDisconnected si eps) si.name) = true := by
    have hns : (clearDisconnected si eps).ns = eps.ns := by
      unfold clearDisconnected
      split <;> rfl
    simp only [isOfService, Bool.and_eq_true, decide_eq_true_eq] at hof ⊢
    refine ⟨hns.trans hof.1, ?_⟩
    rw [← hsi]
    exact GoMap.get?_set_self _ _ _
  unfold importEndpointSliceHandler
  simp only
  split
  · exact .pure _
  · refine (Syncs.call (.createSlice leaf _) rfl fun s hs => ⟨k, rfl, hnew, hs⟩).bind fun r => ?_
    split
    · exact .pure _
    · exact (updateLeafSlice_holds hnew).bind fun r => .pure _
    · exact .pure _

theorem importSlices_holds {si : Owner} (hsi : si.key = k) (l : List EndpointSlice)
    (hl : ∀ x ∈ l, isOfService k.1 k.2 x = true) :
    Syncs (.serviceImport leaf k) (importSlices cfg leaf si l) := by
  induction l with
  | nil => exact .pure _
  | cons eps rest ih =>
    rw [List.forall_mem_cons] at hl
    refine (importEndpointSliceHandler_holds hsi hl.1).bind fun r => ?_
    cases r with
    | none => exact ih hl.2
    | some err => exact .pure _

theorem updateServiceImport_holds {o : Owner} (hkey : o.key = k) (l : List EndpointSlice) :
    (rules (.serviceImport leaf k)).Holds
      (fun r s => r.2.value.key = k ∧ Exists (.serviceImport leaf k) s)
      (updateServiceImport cfg leaf k (withAddresses l) (.fresh o))
      (Exists (.serviceImport leaf k)) := by
  have hupdate : (rules (.serviceImport leaf k)).Holds
      (Updated (fun x => x.value.key = k ∧ ∃ o, x.read = some o ∧ o.finalizers = x.value.finalizers)
        (Exists (.serviceImport leaf k)) (Exists (.serviceImport leaf k)))
      (updateOwner cfg (.serviceImport leaf k) (withAddresses l) (.fresh o))
      (Exists (.serviceImport leaf k)) :=
    updateOwner_holds (exists_stable _) (fun _ h => h.1) (fun _ h => h)
      (fun o h => ⟨h, o, rfl, rfl⟩) (fun x _ h _ => Or.inr (Or.inr h.2))
      (fun a x s h hs => exec_stays h.1 (Or.inr h.2) hs) ⟨hkey, o, rfl, rfl⟩
  exact hupdate.weaken fun r s hs => ⟨hs.1.1, (ite_self _).mp hs.2⟩

theorem syncServiceImport_holds {o : Owner} (hkey : o.key = k) :
    (rules (.serviceImport leaf k)).Holds
      (fun r s => r.2.value.key = k ∧ Exists (.serviceImport leaf k) s)
      (syncServiceImport cfg leaf k (.fresh o)) (Exists (.serviceImport leaf k)) := by
  refine Rules.Holds.bind (holds_call (.rootService k) (fun x => x.key = k)
    rfl (fun _ _ => trivial) fun a s _ x hx => ?_) fun r => ?_
  · have hfound := found_eq_ok (reads_eq_ok hx).2
    exact of_decide_eq_true (Option.filter_eq_some_iff.mp hfound).2
  · split
    · exact Rules.Holds.pure fun s hs => ⟨hkey, hs.1⟩
    · exact Rules.Holds.pure fun s hs => ⟨hkey, hs.1⟩
    next rootService =>
      refine (Rules.Holds.of_fact fun hservice => ?_).mono fun s hs => hs
      refine Rules.Holds.bind (importServiceHandler_holds (hservice rootService rfl) hkey)
        fun r => ?_
      split
      · exact Rules.Holds.pure fun s hs => ⟨hkey, hs⟩
      · refine Rules.Holds.bind (holds_call (.rootSlices k)
          (fun l => ∀ x ∈ l, isOfService k.1 k.2 x = true) rfl
          (fun _ _ => trivial) fun a s _ l hl x hx => ?_) fun r => ?_
        · cases (reads_eq_ok hl).2
          exact (List.mem_filter.mp hx).2
        · cases r with
          | error e => exact Rules.Holds.pure fun s hs => ⟨hkey, hs.1⟩
          | ok l =>
            refine (Rules.Holds.of_fact fun hl => ?_).mono fun s hs => hs
            refine Rules.Holds.bind (importSlices_holds hkey l (hl l rfl)) fun r => ?_
            split
            · exact Rules.Holds.pure fun s hs => ⟨hkey, hs⟩
            · exact updateServiceImport_holds hkey l

def ServiceRead (leaf : String) (k : Key) (service : Service) (s : State) : Prop :=
  if imported service.annotations = false then Clean (.serviceImport leaf k) s
  else Exists (.serviceImport leaf k) s

def ServiceGone (leaf : String) (k : Key) (s : State) : Prop :=
  Exists (.serviceImport leaf k) s ∧ ¬ Remains (.serviceImport leaf k) .service s

theorem getService_holds :
    (rules (.serviceImport leaf k)).Holds
      (Told (ServiceRead leaf k) (Clean (.serviceImport leaf k)) (Exists (.serviceImport leaf k)))
      (ask (.getService leaf k)) (Terminating (.serviceImport leaf k)) := by
  refine holds_ask (Rules.Stable.told (fun service => ?_) (clean_stable _) (exists_stable _))
    (fun _ _ => trivial) fun a s hs hapt => ?_
  · unfold ServiceRead
    split
    · exact clean_stable _
    · exact exists_stable _
  · refine Told.intro (fun service hservice => ?_) (fun hgone => ?_) fun _ => hs.exists
    · obtain ⟨hread, hfound⟩ := reads_eq_ok hservice
      have hget := found_eq_ok hfound
      unfold ServiceRead
      split
      next hforeign =>
        refine hapt hread hs fun x hx => ?_
        cases Option.some.inj (hget.symm.trans hx)
        exact hforeign
      · exact hs.exists
    · obtain ⟨hread, hfound⟩ := reads_notFound hgone
      refine hapt hread hs fun x hx => ?_
      exact nomatch (found_notFound hfound).symm.trans hx

theorem deleteService_holds :
    (rules (.serviceImport leaf k)).Holds
      (Told (fun _ => ServiceGone leaf k) (Clean (.serviceImport leaf k))
        (Exists (.serviceImport leaf k)))
      (ask (.deleteService leaf k)) (Exists (.serviceImport leaf k)) := by
  have hgone : (rules (.serviceImport leaf k)).Stable (ServiceGone leaf k) := fun _ _ h hrely =>
    ⟨hrely.stays h.1, fun hp => h.2 (hrely.remains _ hp)⟩
  refine holds_ask (Rules.Stable.told (fun _ => hgone) (clean_stable _) (exists_stable _))
    (fun _ _ => trivial) fun a s hs hapt => ?_
  have hexists : Exists (.serviceImport leaf k) (exec a s (.deleteService leaf k)).2 :=
    exec_exists trivial rfl hs
  have hreply : (exec a s (.deleteService leaf k)).1 =
      (a.write.to (made ((s.leaves leaf).services.delete k)) (s.leaves leaf).services).1 := rfl
  rw [hreply]
  refine Told.intro (fun u hok => ⟨hexists, fun hp => ?_⟩) (fun hnone => ?_) fun _ => hexists
  · have hdelete := made_eq_ok (WriteReply.to_eq_ok hok)
    simp only [Remains, exec, atServices, leaves_setLeaf, if_true] at hp
    exact ((Store.has_delete hdelete).mp hp).1 rfl
  · refine (hapt (delete_notFound (WriteReply.to_notFound hnone).1)).of_remains fun p hp => ?_
    exact exec_remains_free (.deleteService leaf k) (fun _ => trivial) hp

theorem deleteSlices_holds :
    (rules (.serviceImport leaf k)).Holds
      (Told (fun _ => Clean (.serviceImport leaf k)) (Clean (.serviceImport leaf k))
        (Exists (.serviceImport leaf k)))
      (ask (.deleteSlices leaf k)) (ServiceGone leaf k) := by
  refine holds_ask (Rules.Stable.told (fun _ => clean_stable _) (clean_stable _) (exists_stable _))
    (fun _ _ => trivial) fun a s hs _ => ?_
  have hreply : (exec a s (.deleteSlices leaf k)).1 =
      (a.write.to (.ok ((), (s.leaves leaf).slices.deleteAllOf (isOfService k.1 k.2)))
        (s.leaves leaf).slices).1 := rfl
  rw [hreply]
  refine Told.intro (fun u hok => clean_iff.mpr fun p hp => ?_) (fun hnone => ?_) fun _ => ?_
  · cases p with
    | service => exact hs.2 (exec_remains_free (.deleteSlices leaf k) (fun _ => trivial) hp)
    | slice j =>
      have hdelete := (Prod.mk.inj (Except.ok.inj (WriteReply.to_eq_ok hok))).2
      simp only [Remains, exec, atLeafSlices, leaves_setLeaf, if_true] at hp
      rw [← hdelete, Store.has_deleteAllOf] at hp
      obtain ⟨x, -, hx⟩ := hp
      simp only [Bool.and_eq_true, Bool.not_eq_true'] at hx
      rw [hx.1.1] at hx
      cases hx.2
  · cases (WriteReply.to_notFound hnone).1
  · exact exec_exists trivial rfl hs.1

theorem cleanup_holds :
    (rules (.serviceImport leaf k)).Holds (Done (.serviceImport leaf k))
      (cleanupServiceAndEndpointSlice leaf k) (Terminating (.serviceImport leaf k)) := by
  refine getService_holds.bind fun r => ?_
  split
  · exact Rules.Holds.pure fun s hs => hs
  next hne => exact Rules.Holds.pure fun s hs => (told_error_iff hne).mp hs
  next service =>
    split
    next hforeign => exact Rules.Holds.pure fun s hs => (if_pos hforeign).mp hs
    next himported =>
      refine (deleteService_holds.mono fun s hs => (if_neg himported).mp hs).bind fun r => ?_
      split
      · exact Rules.Holds.pure fun s hs => hs
      next hne => exact Rules.Holds.pure fun s hs => (told_error_iff hne).mp hs
      · refine deleteSlices_holds.bind fun r => ?_
        split
        · exact Rules.Holds.pure fun s hs => hs
        next hne => exact Rules.Holds.pure fun s hs => (told_error_iff hne).mp hs
        · exact Rules.Holds.pure fun s hs => hs

end Imports

def OwnerRead (t : Task) (o : Owner) (s : State) : Prop :=
  o.key = t.key ∧ if o.terminating then Terminating t s else Exists t s

theorem getOwner_holds (t : Task) :
    (rules t).Holds (Told (OwnerRead t) (Safe t) (Safe t)) (ask (.getOwner t)) (Safe t) := by
  refine holds_ask (Rules.Stable.told (fun o s s' h hrely => ⟨h.1, ?_⟩) (safe_stable t)
    (safe_stable t)) (fun _ _ => trivial) fun a s hs _ => ?_
  · have hread := h.2
    split at hread
    next hterminating =>
      rw [if_pos hterminating]
      exact hrely.terminating hread
    next hterminating =>
      rw [if_neg hterminating]
      exact hrely.stays hread
  · refine Told.intro (fun o ho => ?_) (fun _ => hs) fun _ => hs
    have howner := found_eq_ok (reads_eq_ok ho).2
    refine ⟨key_of_owner howner, ?_⟩
    split
    next hterminating => exact ⟨o, howner, hterminating⟩
    · exact Option.isSome_of_eq_some howner

theorem reconcileOwner_holds {cfg : Config} {cleanup : Reconcile}
    {sync : InHand Owner → Program (Option CallError × InHand Owner)}
    (hcleanup : (rules t).Holds (Done t) cleanup (Terminating t))
    (hsync : ∀ o : Owner, o.key = t.key →
      (rules t).Holds (fun r s => r.2.value.key = t.key ∧ Exists t s) (sync (.fresh o))
        (Exists t)) :
    (rules t).Holds (fun _ => Safe t) (reconcileOwner cfg t cleanup sync) (Safe t) := by
  refine (getOwner_holds t).bind fun r => ?_
  split
  · exact Rules.Holds.pure fun s hs => hs
  next hne => exact Rules.Holds.pure fun s hs => (told_error_iff hne).mp hs
  next owner =>
    refine (Rules.Holds.of_fact (P := fun s =>
      if owner.terminating = true then Terminating t s else Exists t s)
      fun hkey : owner.key = t.key => ?_).mono fun s hs => ⟨hs.2, hs.1⟩
    split
    · refine hcleanup.bind fun err => ?_
      cases err with
      | some err => exact Rules.Holds.pure fun s hs => Or.inl hs
      | none =>
        refine (removeFinalizer_holds (x := .fresh owner) hkey).weaken fun _ _ hs => Or.inr hs
    · refine (hsync owner hkey).bind fun r => ?_
      split
      · exact Rules.Holds.pure fun s hs => Or.inl hs.2
      next x =>
        refine (Rules.Holds.of_fact fun hx => ?_).mono fun s hs => ⟨hs.2, hs.1⟩
        exact (ensureFinalizer_holds hx).weaken fun _ _ hs => Or.inl hs

theorem reconcile_holds (cfg : Config) (t : Task) :
    (rules t).Holds (fun _ => Safe t) (reconcile cfg t) (Safe t) := by
  cases t with
  | serviceExport k =>
    simp only [reconcile, reconcileExport]
    refine reconcileOwner_holds (removeAnnotationOf_holds cfg k) fun o hkey => ?_
    exact Rules.Holds.bind (syncServiceExport_holds cfg k) fun err =>
      Rules.Holds.pure fun s hs => ⟨hkey, hs⟩
  | serviceImport leaf k =>
    exact reconcileOwner_holds cleanup_holds fun o hkey => syncServiceImport_holds hkey

end Kosmos.McsOwners
