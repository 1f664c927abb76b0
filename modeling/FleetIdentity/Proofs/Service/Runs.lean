import FleetIdentity.Proofs.Service.Operations
import FleetIdentity.Proofs.Service.RegisteredDevice

/-!
# Nothing is lost over a run

Over a run organizations stay as they were registered, and devices keep their id, what names them,
their credentials and their owner. What changes about a device is what the last successful operation
of its kind said: its store and its key come from its last enrollment, its data from the last update
that gave any. A demotion clears neither.
-/

namespace FleetIdentity

/-- What of a device never changes. -/
def DeviceRow.lasting (r : DeviceRow) :
    String × String × String × String × String × Credentials :=
  (r.id, r.organizationId, r.device.brand, r.device.model, r.device.serialNumber, r.credentials)

namespace IdentityService

variable {service : IdentityService} {s s' : Store} {operation : Operation}
  {outcome : Except IdentityError Reply}

/-! ### What stays -/

/-- The new store has all organizations of the old one, and its devices with what never changes. -/
structure Keeps (s s' : Store) : Prop where
  organizations : s.organizations <+: s'.organizations
  rows : s.rows.map DeviceRow.lasting <+: s'.rows.map DeviceRow.lasting

theorem Keeps.refl (s : Store) : Keeps s s :=
  ⟨List.prefix_rfl, List.prefix_rfl⟩

theorem Keeps.trans {t : Store} (first : Keeps s t) (second : Keeps t s') : Keeps s s' :=
  ⟨first.organizations.trans second.organizations, first.rows.trans second.rows⟩

theorem Keeps.replace (h : s.Sound) {old new : DeviceRow} (mem : old ∈ s.rows)
    (same : new.lasting = old.lasting)
    (becomes : s.Becomes s' s.organizations (DeviceRow.replaceIn s.rows new)) : Keeps s s' := by
  have rows := DeviceRow.map_replaceIn h.ids mem (congrArg Prod.fst same) same
  exact ⟨becomes.organizations_eq ▸ List.prefix_rfl, becomes.rows_eq ▸ rows ▸ List.prefix_rfl⟩

theorem Step.keeps (h : s.Sound) (step : Step s s' operation outcome) : Keeps s s' := by
  cases step with
  | failed same | read same =>
    rw [same]
    exact .refl s
  | organization o _ _ becomes =>
    refine ⟨?_, becomes.rows_eq ▸ List.prefix_rfl⟩
    rw [becomes.organizations_eq]
    exact List.prefix_append _ _
  | device row _ _ _ becomes =>
    refine ⟨becomes.organizations_eq ▸ List.prefix_rfl, ?_⟩
    rw [becomes.rows_eq, List.map_append]
    exact List.prefix_append _ _
  | enrolled row mem _ _ becomes =>
    refine .replace h mem ?_ becomes
    rfl
  | updated row mem _ becomes =>
    refine .replace h mem ?_ becomes
    rfl

theorem find?_of_prefix {α : Type} {p : α → Bool} {l l' : List α} (earlier : l <+: l') {a : α}
    (found : l.find? p = some a) : l'.find? p = some a := by
  obtain ⟨later, rfl⟩ := earlier
  rw [List.find?_append, found]
  rfl

/-- The enrollment shows the same device of the same organization, perhaps with another store, key,
status or data. -/
structure SameDevice (e e' : Enrollment) : Prop where
  id_eq : e'.id = e.id
  brand_eq : e'.device.brand = e.device.brand
  model_eq : e'.device.model = e.device.model
  serialNumber_eq : e'.device.serialNumber = e.device.serialNumber
  credentials_eq : e'.credentials = e.credentials
  organization_eq : e'.organization = e.organization

theorem Keeps.getDeviceById (keeps : Keeps s s') (h' : s'.Sound) {e : Enrollment}
    (listed : e ∈ s.enrollments) :
    ∃ e', s'.getDeviceById e.id = .ok e' ∧ SameDevice e e' := by
  obtain ⟨r, mem, shown⟩ := Store.mem_enrollments.1 listed
  obtain ⟨o, status, owner, _, rfl⟩ := Store.enrollment?_eq_some_iff.1 shown
  obtain ⟨r', mem', same⟩ := List.mem_map.1 (keeps.rows.subset (List.mem_map_of_mem mem))
  simp only [DeviceRow.lasting, Prod.mk.injEq] at same
  obtain ⟨id_eq, owner_eq, brand_eq, model_eq, serialNumber_eq, credentials_eq⟩ := same
  obtain ⟨e', shown'⟩ := h'.enrollment? mem'
  obtain ⟨o', status', owner', _, rfl⟩ := Store.enrollment?_eq_some_iff.1 shown'
  rw [owner_eq, find?_of_prefix keeps.organizations owner] at owner'
  cases owner'
  have listed' := Store.mem_enrollments.2 ⟨r', mem', shown'⟩
  refine ⟨_, (Store.getDeviceById_eq_ok_iff h').2 ⟨listed', id_eq⟩,
    id_eq, brand_eq, model_eq, serialNumber_eq, credentials_eq, rfl⟩

/-! ### What the events of a run say -/

/-- What changes about a device is what the last events said that said anything about it. -/
structure Told (events : List Event) (r : DeviceRow) : Prop where
  storeId : r.device.storeId =
    ((Event.last (Event.enrolls? r.id) events).map (·.storeId)).getD ""
  deviceKey : r.device.deviceKey =
    ((Event.last (Event.enrolls? r.id) events).map (·.deviceKey)).getD ""
  deviceData : r.deviceData = (Event.last (Event.data? r.id) events).getD ""

/-- The store is what the events of a run make of an empty one. -/
structure Records (events : List Event) (s : Store) : Prop where
  organizations : s.organizations.length = events.countP Event.registersOrganization
  devices : s.rows.length = events.countP Event.registersDevice
  told : ∀ r ∈ s.rows, Told events r
  /-- Nothing was said of a device that is not there. -/
  unknown : ∀ id, (∀ r ∈ s.rows, r.id ≠ id) → Event.last (Event.enrolls? id) events = none ∧
    Event.last (Event.data? id) events = none

variable {events : List Event} {x : Event} {row : DeviceRow}

theorem Told.silent (told : Told events row) (no_enrollment : x.enrolls? row.id = none)
    (no_data : x.data? row.id = none) : Told (events ++ [x]) row := by
  obtain ⟨storeId, deviceKey, deviceData⟩ := told
  refine ⟨?_, ?_, ?_⟩
  · rw [Event.last_concat_of_none no_enrollment]
    exact storeId
  · rw [Event.last_concat_of_none no_enrollment]
    exact deviceKey
  · rw [Event.last_concat_of_none no_data]
    exact deviceData

theorem Told.enrolled (told : Told events row) {request : EnrollmentRequest}
    (enrollment : x.enrolls? row.id = some request) (no_data : x.data? row.id = none) :
    Told (events ++ [x]) (row.enrolled request) := by
  have said : Event.last (Event.enrolls? (row.enrolled request).id) (events ++ [x]) =
      some request := by
    rw [Event.last_concat]
    show (x.enrolls? row.id).or _ = _
    rw [enrollment, Option.some_or]
  refine ⟨?_, ?_, ?_⟩
  · rw [said]
    rfl
  · rw [said]
    rfl
  · exact (Event.last_concat_of_none no_data).symm ▸ told.deviceData

theorem Told.administered (told : Told events row) {target : Status} {deviceData : Option String}
    (no_enrollment : x.enrolls? row.id = none) (data : x.data? row.id = deviceData) :
    Told (events ++ [x]) (row.administered target deviceData) := by
  refine ⟨?_, ?_, ?_⟩
  · exact (Event.last_concat_of_none no_enrollment).symm ▸ told.storeId
  · exact (Event.last_concat_of_none no_enrollment).symm ▸ told.deviceKey
  · have said : Event.last (Event.data? (row.administered target deviceData).id) (events ++ [x]) =
        deviceData.or (Event.last (Event.data? row.id) events) := by
      rw [Event.last_concat]
      show (x.data? row.id).or _ = _
      rw [data]
      rfl
    rw [said]
    cases deviceData with
    | none => exact told.deviceData
    | some data => rfl

/-- An event that says nothing and changes nothing. -/
theorem Records.silent (records : Records events s) (same : s' = s)
    (no_organization : x.registersOrganization = false) (no_device : x.registersDevice = false)
    (no_enrollment : ∀ id, x.enrolls? id = none) (no_data : ∀ id, x.data? id = none) :
    Records (events ++ [x]) s' := by
  subst same
  obtain ⟨organizations, devices, told, unknown⟩ := records
  refine ⟨?_, ?_, ?_, ?_⟩
  · rw [List.countP_append, List.countP_singleton, no_organization]
    exact organizations
  · rw [List.countP_append, List.countP_singleton, no_device]
    exact devices
  · exact fun r mem => (told r mem).silent (no_enrollment _) (no_data _)
  · intro id absent
    rw [Event.last_concat_of_none (no_enrollment id), Event.last_concat_of_none (no_data id)]
    exact unknown id absent

/-- An event that changes one device, and says nothing of the others. -/
theorem Records.replace (records : Records events s) (mem : row ∈ s.rows) {new : DeviceRow}
    (id_eq : new.id = row.id)
    (becomes : s.Becomes s' s.organizations (DeviceRow.replaceIn s.rows new))
    (no_organization : x.registersOrganization = false) (no_device : x.registersDevice = false)
    (told : Told events row → Told (events ++ [x]) new)
    (no_enrollment : ∀ id, id ≠ row.id → x.enrolls? id = none)
    (no_data : ∀ id, id ≠ row.id → x.data? id = none) : Records (events ++ [x]) s' := by
  refine ⟨?_, ?_, ?_, ?_⟩
  · rw [becomes.organizations_eq, List.countP_append, List.countP_singleton, no_organization]
    exact records.organizations
  · rw [becomes.rows_eq, DeviceRow.replaceIn, List.length_map, List.countP_append,
      List.countP_singleton, no_device]
    exact records.devices
  · rw [becomes.rows_eq]
    intro r hr
    rcases DeviceRow.mem_replaceIn hr with rfl | ⟨hr, other⟩
    · exact told (records.told row mem)
    · rw [id_eq] at other
      exact (records.told r hr).silent (no_enrollment _ other) (no_data _ other)
  · rw [becomes.rows_eq]
    intro id absent
    have other : id ≠ row.id := by
      rintro rfl
      exact absent new (DeviceRow.mem_replaceIn_self mem id_eq) id_eq
    rw [Event.last_concat_of_none (no_enrollment id other),
      Event.last_concat_of_none (no_data id other)]
    refine records.unknown id fun r hr same => ?_
    exact absent r (DeviceRow.mem_replaceIn_of_ne hr (same ▸ id_eq ▸ other)) same

theorem Records.step (records : Records events s) (step : Step s s' operation outcome) :
    Records (events ++ [⟨operation, outcome⟩]) s' := by
  cases step with
  | failed same =>
    cases operation with
    | _ => exact records.silent same rfl rfl (fun _ => rfl) fun _ => rfl
  | read same reads =>
    rcases reads with rfl | ⟨_, rfl⟩ | ⟨_, _, rfl⟩
    all_goals exact records.silent same rfl rfl (fun _ => rfl) fun _ => rfl
  | organization o _ write becomes =>
    obtain ⟨organizations, devices, told, unknown⟩ := records
    refine ⟨?_, ?_, ?_, ?_⟩
    · rw [becomes.organizations_eq, List.length_append, organizations, List.countP_append]
      rfl
    · rw [becomes.rows_eq, devices, List.countP_append]
      rfl
    · rw [becomes.rows_eq]
      exact fun r mem => (told r mem).silent rfl rfl
    · rw [becomes.rows_eq]
      intro id absent
      rw [Event.last_concat_of_none rfl, Event.last_concat_of_none rfl]
      exact unknown id absent
  | device row free unset write becomes =>
    obtain ⟨organizations, devices, told, unknown⟩ := records
    refine ⟨?_, ?_, ?_, ?_⟩
    · rw [becomes.organizations_eq, organizations, List.countP_append]
      rfl
    · rw [becomes.rows_eq, List.length_append, devices, List.countP_append]
      rfl
    · rw [becomes.rows_eq]
      intro r hr
      rcases List.mem_append.1 hr with hr | hr
      · exact (told r hr).silent rfl rfl
      -- Nothing is set about a new device, and nothing was said of it before it came.
      · obtain rfl := List.mem_singleton.1 hr
        obtain ⟨no_enrollment, no_data⟩ := unknown r.id free
        obtain ⟨storeId, deviceKey, deviceData⟩ := unset
        refine Told.silent ⟨?_, ?_, ?_⟩ rfl rfl
        · rw [no_enrollment]
          exact storeId
        · rw [no_enrollment]
          exact deviceKey
        · rw [no_data]
          exact deviceData
    · rw [becomes.rows_eq]
      intro id absent
      rw [Event.last_concat_of_none rfl, Event.last_concat_of_none rfl]
      exact unknown id fun r hr => absent r (List.mem_append_left _ hr)
  | @enrolled first second request e row mem asked id_eq becomes =>
    have shown : ∀ id, Event.enrolls? id ⟨.enrollDevice first second, .ok (.enrollment e)⟩ =
        if e.id = id then some request else none := by
      intro id
      rw [Event.enrolls?, asked]
      rfl
    refine records.replace mem ?_ becomes rfl rfl (fun told => told.enrolled ?_ rfl) ?_
      fun _ _ => rfl
    · rfl
    · rw [shown, if_pos id_eq]
    · intro id other
      rw [shown, if_neg fun same => other (same.symm.trans id_eq)]
  | updated row mem updates becomes =>
    rcases updates with rfl | ⟨_, rfl⟩
    all_goals
      refine records.replace mem ?_ becomes rfl rfl
        (fun told => told.administered rfl (if_pos rfl)) (fun _ _ => rfl) ?_
      · rfl
      · exact fun id other => if_neg fun same => other same.symm

theorem records_empty (empty : s = .memory .empty ∨ s = .database .empty) : Records [] s := by
  rcases empty with rfl | rfl
  all_goals exact ⟨rfl, rfl, nofun, fun _ _ => ⟨rfl, rfl⟩⟩

/-! ### Whole runs -/

variable {start : Store}

theorem Run.sound (h : start.Sound) (run : Run service start events s) : s.Sound := by
  induction run with
  | start => exact h
  | perform _ _ performed ih => exact (step_of_perform ih _ performed).sound ih

theorem Run.keeps (h : start.Sound) (run : Run service start events s) : Keeps start s := by
  induction run with
  | start => exact .refl start
  | perform run _ performed ih =>
    have sound := run.sound h
    exact ih.trans ((step_of_perform sound _ performed).keeps sound)

theorem Run.records (h : start.Sound) (records : Records [] start)
    (run : Run service start events s) : Records events s := by
  induction run with
  | start => exact records
  | perform run _ performed ih => exact ih.step (step_of_perform (run.sound h) _ performed)

theorem Run.append {before after : List Event} (first : Run service start before s)
    (rest : Run service s after s') : Run service start (before ++ after) s' := by
  induction rest with
  | start =>
    rw [List.append_nil]
    exact first
  | perform _ fresh performed ih =>
    rw [← List.append_assoc]
    exact ih.perform fresh performed

/-- New ids keep the ids of organizations apart. -/
theorem Step.organizationIds (step : Step s s' operation outcome) (fresh : operation.FreshFor s)
    (ids : (s.organizations.map (·.id)).Nodup) : (s'.organizations.map (·.id)).Nodup := by
  cases step with
  | failed same | read same =>
    rw [same]
    exact ids
  | organization o id_eq _ becomes =>
    rw [becomes.organizations_eq, List.map_append, List.map_singleton, ← List.concat_eq_append]
    refine ids.concat fun taken => ?_
    obtain ⟨other, mem, same⟩ := List.mem_map.1 taken
    exact fresh other mem (same.trans id_eq)
  | device _ _ _ _ becomes | enrolled _ _ _ _ becomes | updated _ _ _ becomes =>
    rw [becomes.organizations_eq]
    exact ids

theorem Run.organizationIds (h : start.Sound) (ids : (start.organizations.map (·.id)).Nodup)
    (run : Run service start events s) : (s.organizations.map (·.id)).Nodup := by
  induction run with
  | start => exact ids
  | perform run fresh performed ih =>
    exact (step_of_perform (run.sound h) _ performed).organizationIds fresh ih

theorem length_enrollments (h : s.Sound) : s.enrollments.length = s.rows.length := by
  rw [Store.enrollments, List.length_filterMap_eq_countP, List.countP_eq_length]
  intro r mem
  obtain ⟨e, shown⟩ := h.enrollment? mem
  rw [shown]
  rfl

/-- From an empty store on, what a run has registered is there after any further run, and unchanged
but for what later enrollments and updates said. The numbers of organizations and devices are those
of the registrations that succeeded; the store and the key of a device are those of its last
enrollment, and its data are those of the last update that gave data. -/
theorem run_loses_nothing (empty : start = .memory .empty ∨ start = .database .empty)
    {before after : List Event} (first : Run service start before s)
    (rest : Run service s after s') :
    (∀ o ∈ s.organizations, s'.getOrganization o.id = .ok o) ∧
    (∀ e ∈ s.enrollments, ∃ e', s'.getDeviceById e.id = .ok e' ∧ SameDevice e e') ∧
    s'.organizations.length = (before ++ after).countP Event.registersOrganization ∧
    s'.enrollments.length = (before ++ after).countP Event.registersDevice ∧
    ∀ e ∈ s'.enrollments,
      e.device.storeId =
        ((Event.last (Event.enrolls? e.id) (before ++ after)).map (·.storeId)).getD "" ∧
      e.device.deviceKey =
        ((Event.last (Event.enrolls? e.id) (before ++ after)).map (·.deviceKey)).getD "" ∧
      e.deviceData = (Event.last (Event.data? e.id) (before ++ after)).getD "" := by
  have start_sound : start.Sound := by
    rcases empty with rfl | rfl
    · exact Store.sound_memory_empty
    · exact Store.sound_database_empty
  have start_ids : (start.organizations.map (·.id)).Nodup := by
    rcases empty with rfl | rfl
    all_goals exact .nil
  have whole := first.append rest
  have sound := whole.sound start_sound
  have keeps := rest.keeps (first.sound start_sound)
  have records := whole.records start_sound (records_empty empty)
  refine ⟨?organization, ?device, records.organizations, ?devices, ?told⟩
  case organization =>
    intro o mem
    have ids := whole.organizationIds start_sound start_ids
    rw [Store.getOrganization_eq sound.hasTables, foundOr_eq_ok_iff]
    exact find?_beq_of_mem ids (keeps.organizations.subset mem)
  case device => exact fun e listed => keeps.getDeviceById sound listed
  case devices => rw [length_enrollments sound, records.devices]
  case told =>
    intro e listed
    obtain ⟨r, mem, shown⟩ := Store.mem_enrollments.1 listed
    obtain ⟨o, status, _, _, rfl⟩ := Store.enrollment?_eq_some_iff.1 shown
    obtain ⟨storeId, deviceKey, deviceData⟩ := records.told r mem
    exact ⟨storeId, deviceKey, deviceData⟩

/-! ### A device that is demoted -/

/-- The organization `acme` and its device of brand `a/b`, with what `fixedService` gives them. -/
def slashStore (device : Device) (status : Status) (deviceData : String) : Store :=
  .memory {
    organizations := [⟨"o", "acme", "", "key", "certificate"⟩]
    devices := [⟨"d", "o", device, ⟨"key", "certificate", "localhost", "8883"⟩, status,
      deviceData⟩] }

/-- The device is registered. -/
def registrations : List Event :=
  [⟨.registerOrganization ⟨"o", ⟨(0, 0), [], 0⟩⟩ ⟨"acme", ""⟩, .ok (.registered "o")⟩,
    ⟨.registerDevice ⟨"d", ⟨(0, 0), [], 0⟩⟩ ⟨"o", "a/b", "c", "s"⟩, .ok (.registered "d")⟩]

/-- The device is enrolled with the key `k`, and then waits again. -/
def demotion : List Event :=
  [⟨.enrollDevice (modelOf "a/b" "c") (serialOf "a/b" "c" "s"),
      .ok (.enrollment ⟨"d", slashEnrolled, ⟨"key", "certificate", "localhost", "8883"⟩,
        ⟨"o", "acme", "", "key", "certificate"⟩, .enrolled, ""⟩)⟩,
    ⟨.updateStatus "d" .waiting (some "x"), .ok (.changed ⟨.enrolled, .waiting⟩)⟩]

theorem run_loses_nothing_demoted : ∃ e, e ∈ (slashStore slashEnrolled .waiting "x").enrollments ∧
    e.status = .waiting ∧ e.device.deviceKey = "k" ∧ e.deviceData = "x" := by
  have organization : Run fixedService (.memory .empty) (registrations.take 1)
      (.memory ⟨[⟨"o", "acme", "", "key", "certificate"⟩], []⟩) :=
    Run.start.perform nofun (by decide +kernel)
  have first : Run fixedService (.memory .empty) registrations
      (slashStore slashDevice .waiting "") :=
    organization.perform trivial (by decide +kernel)
  have enrolled : Run fixedService (slashStore slashDevice .waiting "") (demotion.take 1)
      (slashStore slashEnrolled .enrolled "") :=
    Run.start.perform trivial (by decide +kernel)
  have rest : Run fixedService (slashStore slashDevice .waiting "") demotion
      (slashStore slashEnrolled .waiting "x") :=
    enrolled.perform trivial (by decide +kernel)
  obtain ⟨_, _, _, _, told⟩ := run_loses_nothing (.inl rfl) first rest
  obtain ⟨e, listed, id_eq, status⟩ : ∃ e, e ∈ (slashStore slashEnrolled .waiting "x").enrollments ∧
      e.id = "d" ∧ e.status = .waiting :=
    ⟨⟨"d", slashEnrolled, ⟨"key", "certificate", "localhost", "8883"⟩,
      ⟨"o", "acme", "", "key", "certificate"⟩, .waiting, "x"⟩, by decide +kernel, rfl, rfl⟩
  obtain ⟨_, deviceKey, deviceData⟩ := told e listed
  rw [id_eq] at deviceKey deviceData
  have enrollment : (Event.last (Event.enrolls? "d") (registrations ++ demotion)).map
      (·.deviceKey) = some "k" := by
    decide +kernel
  have update : Event.last (Event.data? "d") (registrations ++ demotion) = some "x" := by
    decide +kernel
  rw [enrollment] at deviceKey
  rw [update] at deviceData
  exact ⟨e, listed, status, deviceKey, deviceData⟩

end IdentityService

end FleetIdentity
