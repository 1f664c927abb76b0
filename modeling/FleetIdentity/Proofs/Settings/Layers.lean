import FleetIdentity.Proofs.Except
import FleetIdentity.Proofs.Settings.Values
import FleetIdentity.Settings.Source

/-!
# Settings of a file with the environment on top

Each variable of the environment is about one setting. The variables are told apart here by what
their texts mean, and not by how they are applied: which texts a variable accepts, when settings
hold what a text says, and when two settings agree on what the variable is about.

One step decides one variable and touches no setting of another. So settings after a run hold the
texts of the variables that were decided and agree with the file on all else: on every variable that
is not set, and, after a failure, on the one that failed and those behind it.
-/

namespace FleetIdentity

/-- The variables of the environment that settings may come from. -/
inductive SettingsVariable where
  | port
  | driver
  | datasource
  | mqttUrl
  | mqttPort
  | certsDir
  | issuance
  | keyAlgorithm
  | logLevel
  | logFormat
  deriving DecidableEq

namespace SettingsVariable

/-- The variables in the order in which they are taken. -/
def order : List SettingsVariable :=
  [port, driver, datasource, mqttUrl, mqttPort, certsDir, issuance, keyAlgorithm, logLevel,
    logFormat]

/-- The name in the environment. -/
def name : SettingsVariable → String
  | port => "IOTID_PORT"
  | driver => "IOTID_DRIVER"
  | datasource => "IOTID_DATASOURCE"
  | mqttUrl => "IOTID_MQTT_URL"
  | mqttPort => "IOTID_MQTT_PORT"
  | certsDir => "IOTID_CERTS_DIR"
  | issuance => "IOTID_ISSUANCE"
  | keyAlgorithm => "IOTID_KEY_ALGORITHM"
  | logLevel => "IOTID_LOG_LEVEL"
  | logFormat => "IOTID_LOG_FORMAT"

/-- The texts that a variable may have. -/
def Accepts : SettingsVariable → String → Prop
  | port, text => ∃ n, IsPort text n
  | driver, text => text ∈ ["memory", "sqlite"]
  | issuance, text => text ∈ ["self-signed", "external-root"]
  | keyAlgorithm, text => text ∈ ["rsa2048", "ecdsa-p256"]
  | logFormat, text => text ∈ ["pretty", "json"]
  | _, _ => True

/-- The setting of the variable is what the text says. -/
def Holds : SettingsVariable → (text : String) → Settings → Prop
  | port, text, s => IsPort text s.listenPort.toNat
  | driver, text, s => text = Named.name s.driver
  | datasource, text, s => s.datasource = text
  | mqttUrl, text, s => s.mqttUrl = text
  | mqttPort, text, s => s.mqttPort = text
  | certsDir, text, s => s.certsDir = text
  | issuance, text, s => text = Named.name s.issuance
  | keyAlgorithm, text, s => text = Named.name s.keyAlgorithm
  | logLevel, text, s => s.logLevel = text
  | logFormat, text, s => text = Named.name s.logFormat

/-- The setting of the variable is the same. -/
def Agree : SettingsVariable → Settings → Settings → Prop
  | port, s, t => t.listenPort = s.listenPort
  | driver, s, t => t.driver = s.driver
  | datasource, s, t => t.datasource = s.datasource
  | mqttUrl, s, t => t.mqttUrl = s.mqttUrl
  | mqttPort, s, t => t.mqttPort = s.mqttPort
  | certsDir, s, t => t.certsDir = s.certsDir
  | issuance, s, t => t.issuance = s.issuance
  | keyAlgorithm, s, t => t.keyAlgorithm = s.keyAlgorithm
  | logLevel, s, t => t.logLevel = s.logLevel
  | logFormat, s, t => t.logFormat = s.logFormat

/-- The failure that a text which is not accepted leads to. -/
def fault : SettingsVariable → (text : String) → Option SettingsError
  | port, text => some (.invalidPort text)
  | driver, text => some (.unknownChoice "driver" ["memory", "sqlite"] text)
  | issuance, text => some (.unknownChoice "issuance" ["self-signed", "external-root"] text)
  | keyAlgorithm, text => some (.unknownChoice "key_algorithm" ["rsa2048", "ecdsa-p256"] text)
  | logFormat, text => some (.unknownChoice "log_format" ["pretty", "json"] text)
  | _, _ => none

/-- How the variable is applied. -/
def override : SettingsVariable → Override
  | port => .port
  | driver => .choice "IOTID_DRIVER" fun driver s => { s with driver }
  | datasource => .text "IOTID_DATASOURCE" fun datasource s => { s with datasource }
  | mqttUrl => .text "IOTID_MQTT_URL" fun mqttUrl s => { s with mqttUrl }
  | mqttPort => .text "IOTID_MQTT_PORT" fun mqttPort s => { s with mqttPort }
  | certsDir => .text "IOTID_CERTS_DIR" fun certsDir s => { s with certsDir }
  | issuance => .choice "IOTID_ISSUANCE" fun issuance s => { s with issuance }
  | keyAlgorithm => .choice "IOTID_KEY_ALGORITHM" fun keyAlgorithm s => { s with keyAlgorithm }
  | logLevel => .text "IOTID_LOG_LEVEL" fun logLevel s => { s with logLevel }
  | logFormat => .choice "IOTID_LOG_FORMAT" fun logFormat s => { s with logFormat }

theorem all_eq : Override.all = order.map override := rfl

theorem variableName_override (v : SettingsVariable) : v.override.variableName = v.name := by
  cases v <;> rfl

theorem order_nodup : order.Nodup := by decide

theorem mem_order (v : SettingsVariable) : v ∈ order := by
  cases v <;> decide

theorem code_of_fault {v : SettingsVariable} {text : String} {e : SettingsError}
    (h : v.fault text = some e) : e.code = "config" := by
  cases v <;> cases h <;> rfl

theorem Agree.refl (v : SettingsVariable) (s : Settings) : v.Agree s s := by
  cases v <;> rfl

theorem Agree.trans {v : SettingsVariable} {s t u : Settings} (first : v.Agree s t)
    (second : v.Agree t u) : v.Agree s u := by
  cases v <;> exact Eq.trans second first

/-- What settings hold depends only on the setting of the variable. -/
theorem Holds.congr {v : SettingsVariable} {text : String} {s t : Settings} (held : v.Holds text s)
    (same : v.Agree s t) : v.Holds text t := by
  cases v <;> simp only [Holds, Agree] at * <;> simp only [same, held]

/-! ### One variable -/

/-- The outcome of one variable that is set: its setting holds the text and all others stay, or the
text is not accepted. -/
def Decides (v : SettingsVariable) (text : String) (s : Settings) :
    Except SettingsError Settings → Prop
  | .ok t => v.Accepts text ∧ v.Holds text t ∧ (∀ u, u ≠ v → u.Agree s t) ∧
      t.trustedKeys = s.trustedKeys
  | .error e => ¬ v.Accepts text ∧ v.fault text = some e

/-- A text that is taken as it is decides its setting, whatever it is. -/
theorem decides_text {v : SettingsVariable} {text : String} {s : Settings} (variableName : String)
    (set : String → Settings → Settings) (accepts : v.Accepts text)
    (holds : v.Holds text (set text s)) (others : ∀ u, u ≠ v → u.Agree s (set text s))
    (keys : (set text s).trustedKeys = s.trustedKeys) :
    Decides v text s ((Override.text variableName set).apply text s) :=
  ⟨accepts, holds, others, keys⟩

/-- A choice decides its setting under one of its exact names, and else fails with all of them. -/
theorem decides_choice {α : Type} [Named α] [LawfulNamed α] {v : SettingsVariable} {text : String}
    {s : Settings} (variableName : String) (set : α → Settings → Settings)
    (accepts : v.Accepts text ↔ text ∈ (Named.choices : List (String × α)).map (·.1))
    (faults : v.fault text = some (.unknownChoice (Named.setting α)
      ((Named.choices : List (String × α)).map (·.1)) text))
    (holds : ∀ a, v.Holds (Named.name a) (set a s))
    (others : ∀ a u, u ≠ v → u.Agree s (set a s))
    (keys : ∀ a, (set a s).trustedKeys = s.trustedKeys) :
    Decides v text s ((Override.choice variableName set).apply text s) := by
  rw [Named.mem_choices_iff] at accepts
  cases parsed : Named.parse α text with
  | ok a =>
    have named := Named.parse_ok_iff.1 parsed
    simp only [Override.choice, parsed]
    exact ⟨accepts.2 ⟨a, named⟩, named ▸ holds a, others a, keys a⟩
  | error e =>
    obtain ⟨refused, rfl⟩ := Named.parse_error_iff.1 parsed
    simp only [Override.choice, parsed]
    exact ⟨fun accepted => (accepts.1 accepted).elim refused, faults⟩

/-- The port decides its setting if the text is one. -/
theorem decides_port (text : String) (s : Settings) :
    Decides port text s (Override.port.apply text s) := by
  cases known : Settings.port? text with
  | some n =>
    have is_port := Settings.port?_eq_some_iff.1 known
    simp only [Override.port, known]
    refine ⟨⟨_, is_port⟩, is_port, fun u other => ?_, rfl⟩
    cases u <;> simp_all [Agree]
  | none =>
    simp only [Override.port, known]
    exact ⟨fun ⟨n, is_port⟩ => Settings.port?_eq_none_iff.1 known n is_port, rfl⟩

/-- One step: a variable that is set decides its own setting and no other. -/
theorem decides_override (v : SettingsVariable) (text : String) (s : Settings) :
    Decides v text s (v.override.apply text s) := by
  cases v with
  | port => exact decides_port text s
  | driver | issuance | keyAlgorithm | logFormat =>
    refine decides_choice _ _ Iff.rfl rfl (fun _ => rfl) (fun a u other => ?_) fun _ => rfl
    cases u <;> simp_all [Agree]
  | datasource | mqttUrl | mqttPort | certsDir | logLevel =>
    refine decides_text _ _ trivial rfl (fun u other => ?_) rfl
    cases u <;> simp_all [Agree]

/-! ### All variables -/

/-- Settings of which some variables are decided: what these say holds where they are set, and all
else is as in the file. -/
structure Layered (lookup : String → Option String) (decided : List SettingsVariable)
    (file s : Settings) : Prop where
  given : ∀ v ∈ decided, ∀ text, lookup v.name = some text → v.Holds text s
  kept : ∀ v, (v ∈ decided → lookup v.name = none) → v.Agree file s
  trustedKeys : s.trustedKeys = file.trustedKeys

variable {lookup : String → Option String} {decided : List SettingsVariable} {v : SettingsVariable}
  {file s t : Settings} {text : String}

theorem layered_nil : Layered lookup [] file file :=
  ⟨nofun, fun v _ => Agree.refl v file, rfl⟩

/-- A variable that is not set changes nothing. -/
theorem Layered.unset (layered : Layered lookup decided file s) (unset : lookup v.name = none) :
    Layered lookup (decided ++ [v]) file s where
  given u mem text set := by
    rcases List.mem_append.1 mem with earlier | last
    · exact layered.given u earlier text set
    · rw [List.mem_singleton.1 last, unset] at set
      cases set
  kept u free := layered.kept u fun mem => free (List.mem_append_left _ mem)
  trustedKeys := layered.trustedKeys

/-- A variable that is set decides its setting on top of those before it. -/
theorem Layered.set (layered : Layered lookup decided file s) (fresh : v ∉ decided)
    (set : lookup v.name = some text) (applied : Decides v text s (.ok t)) :
    Layered lookup (decided ++ [v]) file t := by
  obtain ⟨-, holds, others, keys⟩ := applied
  refine ⟨fun u mem other_text other_set => ?_, fun u free => ?_, keys.trans layered.trustedKeys⟩
  · rcases List.mem_append.1 mem with earlier | last
    · have other : u ≠ v := fun same => fresh (same ▸ earlier)
      exact (layered.given u earlier other_text other_set).congr (others u other)
    · obtain rfl := List.mem_singleton.1 last
      obtain rfl := Option.some.inj (set.symm.trans other_set)
      exact holds
  · have other : u ≠ v := by
      rintro rfl
      rw [free (by simp)] at set
      cases set
    exact (layered.kept u fun mem => free (List.mem_append_left _ mem)).trans (others u other)

/-- Whether all variables that are set have texts that they accept. -/
def Acceptable (lookup : String → Option String) (those : List SettingsVariable) : Prop :=
  ∀ v ∈ those, ∀ text, lookup v.name = some text → v.Accepts text

/-- How a run over variables ends: all were accepted and decided, or the first that was not stopped
the run, and only those before it are decided. -/
def Ends (lookup : String → Option String) (decided rest : List SettingsVariable)
    (file : Settings) : Settings × Option SettingsError → Prop
  | (t, none) => Acceptable lookup rest ∧ Layered lookup (decided ++ rest) file t
  | (t, some e) => ∃ before v after text, rest = before ++ v :: after ∧
      Acceptable lookup before ∧ lookup v.name = some text ∧ ¬ v.Accepts text ∧
      v.fault text = some e ∧ Layered lookup (decided ++ before) file t

theorem Ends.cons {rest : List SettingsVariable} {outcome : Settings × Option SettingsError}
    (accepted : ∀ text, lookup v.name = some text → v.Accepts text)
    (ends : Ends lookup (decided ++ [v]) rest file outcome) :
    Ends lookup decided (v :: rest) file outcome := by
  obtain ⟨t, _ | e⟩ := outcome
  · obtain ⟨acceptable, layered⟩ := ends
    rw [List.append_assoc] at layered
    exact ⟨List.forall_mem_cons.2 ⟨accepted, acceptable⟩, layered⟩
  · obtain ⟨before, u, after, text, rfl, acceptable, set, refused, failed, layered⟩ := ends
    rw [List.append_assoc] at layered
    exact ⟨v :: before, u, after, text, rfl, List.forall_mem_cons.2 ⟨accepted, acceptable⟩, set,
      refused, failed, layered⟩

/-- The run: by induction on the variables that are still to come, with those decided so far. -/
theorem ends_applyAll (rest : List SettingsVariable) (distinct : (decided ++ rest).Nodup)
    (layered : Layered lookup decided file s) :
    Ends lookup decided rest file (Override.applyAll lookup (rest.map override) s) := by
  induction rest generalizing decided s with
  | nil =>
    rw [List.map_nil, Override.applyAll]
    exact ⟨nofun, by rwa [List.append_nil]⟩
  | cons v rest ih =>
    have fresh : v ∉ decided := by
      intro mem
      exact (List.nodup_append.1 distinct).2.2 v mem v List.mem_cons_self rfl
    have later : ((decided ++ [v]) ++ rest).Nodup := by
      rwa [List.append_assoc]
    rw [List.map_cons, Override.applyAll, variableName_override]
    cases set : lookup v.name with
    | none => exact Ends.cons (by simp [set]) (ih later (layered.unset set))
    | some text =>
      dsimp only
      have decides := decides_override v text s
      cases applied : v.override.apply text s with
      | ok t =>
        rw [applied] at decides
        have accepted : ∀ other, lookup v.name = some other → v.Accepts other := by
          intro other same
          rw [set] at same
          exact Option.some.inj same ▸ decides.1
        exact Ends.cons accepted (ih later (layered.set fresh set decides))
      | error e =>
        rw [applied] at decides
        refine ⟨[], v, rest, text, rfl, nofun, set, decides.1, decides.2, ?_⟩
        rwa [List.append_nil]

end SettingsVariable

namespace Settings

open SettingsVariable

variable {lookup : String → Option String} {s t : Settings}

/-- All variables are taken, from the settings of the file on. -/
theorem ends_override (lookup : String → Option String) (s : Settings) :
    Ends lookup [] order s (s.override lookup) := by
  rw [override, all_eq]
  exact ends_applyAll order order_nodup layered_nil

/-- What the service needs to run: a port to listen on, a broker at a port, and no trusted key
without an authority. -/
def Runnable (s : Settings) : Prop :=
  s.listenPort ≠ 0 ∧ isBlank s.mqttUrl = false ∧ (∃ n, IsPort s.mqttPort n) ∧
    ∀ k ∈ s.trustedKeys, isBlank k.authorityId = false

theorem exists_isPort_iff {text : String} : (∃ n, IsPort text n) ↔ port? text ≠ none := by
  rw [Ne, port?_eq_none_iff, not_forall]
  simp only [not_not]

theorem validate_eq_ok_iff : s.validate = .ok () ↔ s.Runnable := by
  rw [validate, Runnable, exists_isPort_iff]
  by_cases no_port : s.listenPort = 0
  · simp [no_port]
  by_cases blank : isBlank s.mqttUrl = true
  · simp [no_port, blank]
  cases broker : port? s.mqttPort with
  | none => simp [no_port, blank]
  | some n =>
    by_cases keys : s.trustedKeys.any (isBlank ·.authorityId) = true
    · simp_all
    · simp_all

theorem load_eq_ok_iff {file : File} {r : Settings} (read : ofFile file = .ok s) :
    load file lookup = .ok r ↔ s.override lookup = (r, none) ∧ r.Runnable := by
  rw [load, read, ← validate_eq_ok_iff]
  simp only [bind, Except.bind]
  obtain ⟨t, _ | e⟩ := s.override lookup
  · cases valid : t.validate with
    | ok _ =>
      constructor
      · intro loaded
        cases loaded
        exact ⟨rfl, valid⟩
      · rintro ⟨same, _⟩
        cases same
        rfl
    | error e =>
      constructor
      · intro loaded
        cases loaded
      · rintro ⟨same, runs⟩
        cases same
        rw [valid] at runs
        cases runs
  · constructor
    · intro loaded
      cases loaded
    · rintro ⟨same, _⟩
      cases same

/-- The environment succeeds exactly if each of its variables has a text that it accepts, and then
every setting is what its variable says or, where that is not set, as in the file, and the trusted
keys are those of the file. It fails with the first variable in the order that has another text, the
variables before it being decided and all else being as in the file. Settings are loaded exactly if
the environment succeeds and the service can run with what comes of it, which is what is loaded. -/
theorem layered_exact (lookup : String → Option String) (s : Settings) :
    ((s.override lookup).2 = none ↔ Acceptable lookup order) ∧
    (∀ t, s.override lookup = (t, none) → Layered lookup order s t) ∧
    (∀ t e, s.override lookup = (t, some e) → e.code = "config" ∧
      ∃ before v after text, order = before ++ v :: after ∧ Acceptable lookup before ∧
        lookup v.name = some text ∧ ¬ v.Accepts text ∧ v.fault text = some e ∧
        Layered lookup before s t) ∧
    ∀ file, ofFile file = .ok s →
      ∀ r, load file lookup = .ok r ↔ s.override lookup = (r, none) ∧ r.Runnable := by
  have ends := ends_override lookup s
  refine ⟨⟨fun succeeded => ?_, fun acceptable => ?_⟩, fun t succeeded => ?_, fun t e failed => ?_,
    fun file read r => load_eq_ok_iff read⟩
  · rw [← Prod.mk.eta (p := s.override lookup), succeeded] at ends
    exact ends.1
  · cases failure : (s.override lookup).2 with
    | none => rfl
    | some e =>
      rw [← Prod.mk.eta (p := s.override lookup), failure] at ends
      obtain ⟨before, v, after, text, split, -, set, refused, -⟩ := ends
      exact absurd (acceptable v (mem_order v) text set) refused
  · rw [succeeded] at ends
    exact ends.2
  · rw [failed] at ends
    obtain ⟨before, v, after, text, split, acceptable, set, refused, fault, layered⟩ := ends
    exact ⟨code_of_fault fault, before, v, after, text, split, acceptable, set, refused, fault,
      layered⟩

/-- An environment with a port, and with a name of a kind of key or without one. -/
def portAndAlgorithm (algorithm : Option String) (name : String) : Option String :=
  if name = "IOTID_PORT" then some "+08443"
  else if name = "IOTID_KEY_ALGORITHM" then algorithm
  else none

theorem layered_exact_port :
    (∃ r, load .unset (portAndAlgorithm (some "ecdsa-p256")) = .ok r ∧ r.listenPort = 8443 ∧
      r.keyAlgorithm = .ecdsaP256) ∧
    ∃ t e, ({} : Settings).override (portAndAlgorithm (some "ECDSA")) = (t, some e) ∧
      e.code = "config" ∧ t.listenPort = 8443 ∧ t.keyAlgorithm = .rsa2048 := by
  obtain ⟨-, -, -, loads⟩ := layered_exact (portAndAlgorithm (some "ecdsa-p256")) {}
  obtain ⟨-, -, fails, -⟩ := layered_exact (portAndAlgorithm (some "ECDSA")) {}
  have overridden : ({} : Settings).override (portAndAlgorithm (some "ecdsa-p256")) =
      ({ listenPort := 8443, keyAlgorithm := .ecdsaP256 }, none) := by decide
  have stopped : ({} : Settings).override (portAndAlgorithm (some "ECDSA")) =
      ({ listenPort := 8443 },
        some (.unknownChoice "key_algorithm" ["rsa2048", "ecdsa-p256"] "ECDSA")) := by decide
  have runs : Runnable { listenPort := 8443, keyAlgorithm := .ecdsaP256 } :=
    validate_eq_ok_iff.1 (by decide)
  exact ⟨⟨_, (loads .unset rfl _).2 ⟨overridden, runs⟩, rfl, rfl⟩,
    _, _, stopped, (fails _ _ stopped).1, rfl, rfl⟩

end Settings

end FleetIdentity
