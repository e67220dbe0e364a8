/-
  Startup/Config.lean --- the configuration file of `src/config.rs`.

  A configuration is read from a YAML file and then validated.  Reading YAML is left
  to a parameter; what is validated, in which order, and with which messages is here.
  Sections and settings that no later module reads are left out.
-/
import GeSensor.Dashboard.IpsView
import GeSensor.Pipeline.Capture

set_option autoImplicit false

namespace GeSensor.Startup

open GeSensor.Dashboard
open GeSensor.Foundation
open GeSensor.Pipeline

/-- Core sensor identity. -/
structure SensorConfig where
  name : String
  deriving DecidableEq, Repr

/-- Capture interface configuration. -/
structure CaptureConfig where
  interface : String
  snapLen : Nat := 65535
  deriving DecidableEq, Repr

/-- Selective PCAP configuration. -/
structure PcapConfig where
  ringBufferMb : Nat := 512
  deriving DecidableEq, Repr

/-- Kafka producer configuration. -/
structure KafkaConfig where
  brokers : List String
  deriving DecidableEq, Repr

/-- Output pipeline configuration. -/
structure OutputConfig where
  kafka : KafkaConfig
  deriving DecidableEq, Repr

/-- `IpsConfig::default()`. -/
def defaultIpsConfig : IpsConfig where
  enabled := false
  mode := "tap"
  defaultAction := "pass"

/-- Top-level sensor configuration. -/
structure Config where
  sensor : SensorConfig
  capture : CaptureConfig
  dissectors : DissectorConfig := {}
  pcap : PcapConfig := {}
  ips : IpsConfig := defaultIpsConfig
  output : OutputConfig
  deriving DecidableEq, Repr

/-! ## Validation -/

/-- A constraint that does not hold: the field it is on, and its message. -/
structure Violation where
  field : String
  message : String
  deriving DecidableEq, Repr

/-- A constraint of a section. -/
def constraint (field message : String) (holds : Bool) : List Violation :=
  if holds then [] else [⟨field, message⟩]

@[simp] theorem constraint_eq_nil_iff {field message : String} {holds : Bool} :
    constraint field message holds = [] ↔ holds = true := by
  cases holds <;> simp [constraint]

def SensorConfig.validate (config : SensorConfig) : List Violation :=
  constraint "name" "sensor name must not be empty" (config.name != "")

def CaptureConfig.validate (config : CaptureConfig) : List Violation :=
  constraint "interface" "capture interface must not be empty" (config.interface != "") ++
    constraint "snap_len" "snap_len must be 64..65535"
      (decide (64 ≤ config.snapLen ∧ config.snapLen ≤ 65535))

def KafkaConfig.validate (config : KafkaConfig) : List Violation :=
  constraint "brokers" "at least one Kafka broker is required" (!config.brokers.isEmpty)

/-! ## Loading -/

/-- What lies behind a failure: the text of a library's error, or violations. -/
inductive LoadCause where
  | library (message : String)
  | violations (violations : List Violation)
  deriving DecidableEq, Repr

/-- Why a configuration is not loaded. -/
structure LoadError where
  context : String
  cause : LoadCause
  deriving DecidableEq, Repr

/-- `section.validate().context(context)`. -/
def checkSection (context : String) (violations : List Violation) : Except LoadError Unit :=
  if violations = [] then .ok () else .error ⟨context, .violations violations⟩

/-- An answer of a library, with a context for its failure. -/
def withContext {α : Type} (context : String) : Except String α → Except LoadError α
  | .ok value => .ok value
  | .error message => .error ⟨context, .library message⟩

/-- Load and validate configuration from a YAML file, given what reading the file
answers and how YAML is parsed. -/
def Config.load (path : String) (file : Except String String)
    (parse : String → Except String Config) : Except LoadError Config := do
  let contents ← withContext ("failed to read config file: " ++ path) file
  let config ← withContext ("failed to parse YAML config: " ++ path) (parse contents)
  checkSection "sensor config validation failed" config.sensor.validate
  checkSection "capture config validation failed" config.capture.validate
  checkSection "kafka config validation failed" config.output.kafka.validate
  return config

@[simp] theorem checkSection_eq_ok_iff {context : String} {violations : List Violation}
    {answer : Unit} : checkSection context violations = .ok answer ↔ violations = [] := by
  simp [checkSection]

theorem withContext_eq_ok_iff {α : Type} {context : String} {answer : Except String α}
    {value : α} : withContext context answer = .ok value ↔ answer = .ok value := by
  cases answer <;> simp [withContext]

/-- The configurations that load are those that parse and break no constraint. -/
theorem Config.load_eq_ok_iff {path : String} {file : Except String String}
    {parse : String → Except String Config} {config : Config} :
    Config.load path file parse = .ok config ↔
      (∃ contents, file = .ok contents ∧ parse contents = .ok config) ∧
        config.sensor.validate = [] ∧ config.capture.validate = [] ∧
          config.output.kafka.validate = [] := by
  simp only [Config.load, bind_eq_ok_iff, withContext_eq_ok_iff, checkSection_eq_ok_iff]
  constructor
  · rintro ⟨contents, hfile, parsed, hparse, ⟨⟩, hsensor, ⟨⟩, hcapture, ⟨⟩, hkafka, hresult⟩
    cases hresult
    exact ⟨⟨contents, hfile, hparse⟩, hsensor, hcapture, hkafka⟩
  · rintro ⟨⟨contents, hfile, hparse⟩, hsensor, hcapture, hkafka⟩
    exact ⟨contents, hfile, config, hparse, (), hsensor, (), hcapture, (), hkafka, rfl⟩

/-- What is accepted is well formed. -/
theorem Config.wellFormed_of_load {path : String} {file : Except String String}
    {parse : String → Except String Config} {config : Config}
    (hload : Config.load path file parse = .ok config) :
    config.sensor.name ≠ "" ∧ config.capture.interface ≠ "" ∧
      64 ≤ config.capture.snapLen ∧ config.capture.snapLen ≤ 65535 ∧
      config.output.kafka.brokers ≠ [] := by
  obtain ⟨_, hsensor, hcapture, hkafka⟩ := Config.load_eq_ok_iff.mp hload
  simp only [SensorConfig.validate, constraint_eq_nil_iff, bne_iff_ne] at hsensor
  simp only [CaptureConfig.validate, List.append_eq_nil_iff, constraint_eq_nil_iff, bne_iff_ne,
    decide_eq_true_eq] at hcapture
  simp only [KafkaConfig.validate, constraint_eq_nil_iff, Bool.not_eq_true',
    List.isEmpty_eq_false_iff] at hkafka
  exact ⟨hsensor, hcapture.1, hcapture.2.1, hcapture.2.2, hkafka⟩

end GeSensor.Startup
