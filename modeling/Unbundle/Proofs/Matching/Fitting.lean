import Unbundle.Proofs.Matching.Reference
/-
The types in a record have the shapes of their roles.

`Fitting m r` says so of every role that is filled in `r`. A stage that succeeds keeps it, so it holds after any stages in any
order, and of what matching gives. Nothing is assumed of the module: where a stage fails there is no record.

Results:
- `fitting_run`: one stage keeps a record fitting.
- `fitting_foldlM`: so do any number of stages.
- `fitting_of_rolesOf`: matching gives fitting records only.
-/
namespace Unbundle.Matching

variable {m : Module} {r r' : Roles}

/-- every type in a record has the shape of its role -/
structure Fitting (m : Module) (r : Roles) : Prop where
  controller : ∀ c, r.controller = some c → ∃ t, m.definitions[c]? = some t ∧ IsController m t
  manager : ∀ g, r.manager = some g → ∃ c face f, r.controller = some c ∧ r.streamProviderInterface = some face ∧
    ManagerField m c f (g, face)
  streamProviderInterface : ∀ face, r.streamProviderInterface = some face → ∃ c g f, r.controller = some c ∧
    r.manager = some g ∧ ManagerField m c f (g, face)
  xmlParser : ∀ p, r.xmlParser = some p → ∃ e f, r.entryDescriptor = some e ∧ ParserField m f (p, e)
  streamProvider : ∀ s, r.streamProvider = some s → ∃ g face i, r.manager = some g ∧
    r.streamProviderInterface = some face ∧ ProviderSite m g face i s

/-! ## The controller -/

theorem exists_of_findM? {admits : Method → Bool} {test : Method → Except TypeFault Bool} {l : List Method} {x : Method}
    (h : (l.findM? fun x => if admits x then test x else .ok false) = .ok (some x)) :
    x ∈ l ∧ admits x ∧ test x = .ok true := by
  have hfinds := finds_of_findM? (p := fun x => admits x ∧ test x = .ok true) (fun x _ => by
    by_cases ha : admits x <;> simp [ha]) h
  obtain ⟨a, ha, rfl, hadmits, htest⟩ := hfinds.exists_answer
  exact ⟨ha, hadmits, htest⟩

/-- what passes the test for a controller has the shape of one -/
theorem isController_sound {t : TypeDef} (h : isController m t = .ok true) : IsController m t := by
  unfold isController at h
  split_ifs at h with hcount
  · cases h
  split at h
  · cases h
  next x hx =>
  split_ifs at h with haccess
  · cases h
  obtain ⟨takes, htakes, h⟩ := bind_eq_ok_iff.1 h
  split_ifs at h with hno
  · cases h
  obtain ⟨entry, hentry, h⟩ := bind_eq_ok_iff.1 h
  split_ifs at h with hnone
  · cases h
  obtain ⟨name, hname, h⟩ := bind_eq_ok_iff.1 h
  obtain ⟨hspace, hfields⟩ : t.space = "" ∧ (m.fieldsOf t).length = 2 := by simpa using hcount
  obtain ⟨e, rfl⟩ : ∃ e, entry = some e := Option.ne_none_iff_exists'.1 (by simpa using hnone)
  obtain ⟨n, rfl⟩ : ∃ n, name = some n := Option.isSome_iff_exists.1 (Except.ok.inj h)
  obtain ⟨he, headmits, hereads⟩ := exists_of_findM? hentry
  obtain ⟨hn, hnadmits, hnreads⟩ := exists_of_findM? hname
  simp only [Bool.and_eq_true, Bool.not_eq_true'] at headmits hnadmits
  have htrue : takes = true := by simpa using hno
  subst htrue
  exact ⟨hspace, hfields, ⟨x, hx, not_not.1 haccess, htakes⟩,
    ⟨e, he, headmits.1.1, headmits.2, headmits.1.2, hereads⟩,
    ⟨n, hn, by simp [hnadmits.1.1], hnadmits.2, hnadmits.1.2, hnreads⟩⟩

theorem isController_of_controller? {c : TypeId} (h : controller? m = .ok (some c)) :
    ∃ t, m.definitions[c]? = some t ∧ IsController m t := by
  obtain ⟨id, -, rfl, hid⟩ :=
    (finds_of_findM? (p := fun id => isControllerAt m id = .ok true) (fun _ _ => Iff.rfl) h).exists_answer
  unfold isControllerAt at hid
  split at hid
  · cases hid
  next t ht => exact ⟨t, ht, isController_sound hid⟩

/-! ## What the stages find -/

theorem find_manager_some {ids : List TypeId} (h : Stage.find m r .manager = .ok (some ids)) :
    ∃ c g face f, r.controller = some c ∧ ManagerField m c f (g, face) ∧ ids = [g, face] := by
  simp only [Stage.find] at h
  split at h
  · cases h
  next c hc =>
  obtain ⟨found, hfound, rfl⟩ := Option.map_eq_some_iff.1 (Except.ok.inj h)
  obtain ⟨f, -, hf⟩ := List.exists_of_findSome?_eq_some hfound
  exact ⟨c, found.1, found.2, f, hc, managerAndInterface?_eq_some_iff.1 hf, rfl⟩

theorem find_parser_some {ids : List TypeId} (h : Stage.find m r .parser = .ok (some ids)) :
    ∃ p e f, ParserField m f (p, e) ∧ ids = [p, e] := by
  simp only [Stage.find] at h
  split at h
  · cases h
  obtain ⟨found, hfound, h⟩ := bind_eq_ok_iff.1 h
  obtain ⟨found, rfl, rfl⟩ := Option.map_eq_some_iff.1 (Except.ok.inj h)
  obtain ⟨f, -, hf⟩ :=
    (finds_of_findSomeM? (fun f _ found => parserAndElement?_eq_some_iff) hfound).exists_answer
  exact ⟨found.1, found.2, f, hf, rfl⟩

theorem find_provider_some {ids : List TypeId} (h : Stage.find m r .provider = .ok (some ids)) :
    ∃ g face i s, r.manager = some g ∧ r.streamProviderInterface = some face ∧ ProviderSite m g face i s ∧
      ids = [s] := by
  simp only [Stage.find] at h
  split at h
  · next c g face hc hg hface =>
    split at h
    · cases h
    obtain ⟨takes, -, h⟩ := bind_eq_ok_iff.1 h
    split_ifs at h
    · cases h
    split at h
    · cases h
    obtain ⟨found, hfound, h⟩ := bind_eq_ok_iff.1 h
    obtain ⟨s, rfl, rfl⟩ := Option.map_eq_some_iff.1 (Except.ok.inj h)
    obtain ⟨i, -, hi⟩ := (finds_of_findSomeM? (fun i _ made => providerMadeBy?_eq_some_iff) hfound).exists_answer
    exact ⟨g, face, i, s, hg, hface, hi, rfl⟩
  · cases h

/-! ## Records after stages -/

/-- a stage that succeeds finds nothing, or fills its roles, which are free, with what it finds -/
theorem run_eq_ok {s : Stage} (h : s.run m r = .ok r') :
    r' = r ∨ ∃ ids, s.find m r = .ok (some ids) ∧ r.fill (s.roles.zip ids) = .ok r' := by
  unfold Stage.run at h
  split at h
  · cases h
  · cases h
    exact .inl rfl
  · next ids hids =>
    split at h
    · next hfill =>
      cases h
      exact .inr ⟨ids, hids, hfill⟩
    · cases h

theorem fill_eq_ok {slots : List (Role × TypeId)} (h : r.fill slots = .ok r') :
    (∀ slot ∈ slots, r.get slot.1 = none) ∧ r' = slots.foldl (fun r s => r.set s.1 s.2) r := by
  unfold Roles.fill at h
  split at h
  · cases h
  · next hfree =>
    cases h
    refine ⟨fun slot hslot => ?_, rfl⟩
    simpa using List.find?_eq_none.1 hfree slot hslot

theorem get_foldl_set {slots : List (Role × TypeId)} {role : Role} {id : TypeId}
    (h : (slots.foldl (fun r s => r.set s.1 s.2) r).get role = some id) : r.get role = some id ∨ (role, id) ∈ slots := by
  induction slots generalizing r with
  | nil => exact .inl h
  | cons slot rest ih =>
    rcases ih h with hset | hrest
    · rw [Roles.get_set] at hset
      split_ifs at hset with hrole
      · cases hset
        exact .inr (by rw [hrole]; exact List.mem_cons_self)
      · exact .inl hset
    · exact .inr (List.mem_cons_of_mem _ hrest)

/-- a stage fills none but its own roles -/
theorem get_eq_none_of_run {s : Stage} (h : s.run m r = .ok r') {role : Role} (hrole : role ∉ s.roles)
    (hr : r.get role = none) : r'.get role = none := by
  rcases run_eq_ok h with rfl | ⟨ids, -, hfill⟩
  · exact hr
  obtain ⟨-, rfl⟩ := fill_eq_ok hfill
  rw [Option.eq_none_iff_forall_ne_some]
  intro id hid
  rcases get_foldl_set hid with hold | hnew
  · rw [hr] at hold
    cases hold
  · exact hrole (List.of_mem_zip hnew).1

/-- a stage whose roles are free fails for a fault in a type only -/
theorem exists_fault_of_run {s : Stage} {cause : MatchError} (h : s.run m r = .error cause)
    (hfree : ∀ role ∈ s.roles, r.get role = none) : ∃ fault, cause = .fault fault := by
  unfold Stage.run at h
  split at h
  · next fault _ =>
    cases h
    exact ⟨fault, rfl⟩
  · cases h
  next ids _ =>
  split at h
  · cases h
  · next role hfill =>
    unfold Roles.fill at hfill
    split at hfill
    · next slot hslot =>
      have htaken := List.find?_some hslot
      rw [hfree slot.1 (List.of_mem_zip (List.mem_of_find?_eq_some hslot)).1] at htaken
      cases htaken
    · cases hfill

theorem exists_fault_of_foldlM {stages : List Stage} (hapart : stages.Pairwise fun a b => ∀ role ∈ b.roles, role ∉ a.roles)
    {cause : MatchError} (h : stages.foldlM (Stage.run m) r = .error cause)
    (hfree : ∀ s ∈ stages, ∀ role ∈ s.roles, r.get role = none) : ∃ fault, cause = .fault fault := by
  induction stages generalizing r with
  | nil => cases h
  | cons s rest ih =>
    obtain ⟨hs, hrest⟩ := List.pairwise_cons.1 hapart
    rw [List.foldlM_cons] at h
    rcases bind_eq_error_iff.1 h with hfirst | ⟨r₁, hfirst, hlater⟩
    · exact exists_fault_of_run hfirst (hfree s List.mem_cons_self)
    · refine ih hrest hlater fun other hother role hrole => ?_
      exact get_eq_none_of_run hfirst (hs other hother role hrole) (hfree other (List.mem_cons_of_mem s hother) role hrole)

/-- the stages never come across a role that is filled: each has roles of its own -/
theorem exists_fault_of_runStages {c : Option TypeId} {cause : MatchError}
    (h : runStages m { controller := c } = .error cause) : ∃ fault, cause = .fault fault :=
  exists_fault_of_foldlM (by decide) h (by simp [Stage.all, Stage.roles, Roles.get])

/-- a stage keeps a record fitting -/
theorem fitting_run {s : Stage} (hr : Fitting m r) (h : s.run m r = .ok r') : Fitting m r' := by
  rcases run_eq_ok h with rfl | ⟨ids, hfind, hfill⟩
  · exact hr
  obtain ⟨hfree, rfl⟩ := fill_eq_ok hfill
  cases s with
  | manager =>
    obtain ⟨c, g, face, f, hc, hfield, rfl⟩ := find_manager_some hfind
    have hmanager : r.manager = none := hfree (.manager, g) (by simp [Stage.roles])
    refine ⟨hr.controller, ?_, ?_, hr.xmlParser, fun s hs => ?_⟩
    · rintro g' hg'
      cases hg'
      exact ⟨c, face, f, hc, rfl, hfield⟩
    · rintro face' hface'
      cases hface'
      exact ⟨c, g, f, hc, rfl, hfield⟩
    -- no provider was there before: it comes after a manager
    · obtain ⟨g', -, -, hg', -⟩ := hr.streamProvider s hs
      rw [hmanager] at hg'
      cases hg'
  | parser =>
    obtain ⟨p, e, f, hfield, rfl⟩ := find_parser_some hfind
    refine ⟨hr.controller, hr.manager, hr.streamProviderInterface, ?_, hr.streamProvider⟩
    rintro p' hp'
    cases hp'
    exact ⟨e, f, rfl, hfield⟩
  | provider =>
    obtain ⟨g, face, i, s, hg, hface, hsite, rfl⟩ := find_provider_some hfind
    refine ⟨hr.controller, hr.manager, hr.streamProviderInterface, hr.xmlParser, ?_⟩
    rintro s' hs'
    cases hs'
    exact ⟨g, face, i, hg, hface, hsite⟩

/-- any number of stages in any order keep a record fitting -/
theorem fitting_foldlM (stages : List Stage) (hr : Fitting m r) (h : stages.foldlM (Stage.run m) r = .ok r') :
    Fitting m r' := by
  induction stages generalizing r with
  | nil =>
    cases h
    exact hr
  | cons s rest ih =>
    rw [List.foldlM_cons] at h
    obtain ⟨r₁, hfirst, hrest⟩ := bind_eq_ok_iff.1 h
    exact ih (fitting_run hr hfirst) hrest

theorem fitting_controller {c : TypeId} (hc : ∃ t, m.definitions[c]? = some t ∧ IsController m t) :
    Fitting m { controller := some c } := by
  refine ⟨fun c' hc' => ?_, fun _ h => ?_, fun _ h => ?_, fun _ h => ?_, fun _ h => ?_⟩
  · cases hc'
    exact hc
  all_goals cases h

theorem fitting_empty : Fitting m .empty := by
  refine ⟨fun _ h => ?_, fun _ h => ?_, fun _ h => ?_, fun _ h => ?_, fun _ h => ?_⟩
  all_goals cases h

/-- matching gives fitting records only -/
theorem fitting_of_rolesOf (h : rolesOf m = .ok r) : Fitting m r := by
  unfold rolesOf at h
  split at h
  · cases h
  · cases h
    exact fitting_empty
  · next c hc => exact fitting_foldlM Stage.all (fitting_controller (isController_of_controller? hc)) h

end Unbundle.Matching
