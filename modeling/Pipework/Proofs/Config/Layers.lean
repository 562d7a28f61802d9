import Pipework.Config.Loader
import Pipework.Proofs.Config.Section

set_option autoImplicit false

/-!
# Layers of a configuration

A document that is added to a loader replaces all settings: what the document mentions is set to
what it tells, and everything else gets its standard value, whatever the settings were before. So a
preset survives a document only as far as it agrees with the standard settings or the document
repeats it.

## Main definitions

* `Setting` — the settings of a host, with their value in a configuration and their part of a
  document.
* `Node.Tells` — the values that parts of a document stand for.
* `Node.Overrides` — a document overrides settings one by one.
* `Loader.Gives` — the document of a layer.

## Main results

* `Config.overrides_of_ofNode` — a document overrides the standard settings one by one.
* `Loader.overrides_iff` — when a document overrides the settings before it one by one.
-/

namespace Pipework

open Schema

/-! ## Settings -/

/-- The value of a setting. -/
inductive Config.Entry where
  | text (s : String)
  | flag (b : Bool)
  | format (f : LogFormat)
  | texts (m : OrderedMap String String)

/-- A setting of a host. -/
inductive Setting where
  | appName | environment
  | loggingEnabled | level | format | includeLocation
  | metricsEnabled
  | properties
  deriving DecidableEq, Repr

namespace Setting

/-- The value of a setting in a configuration. -/
def get : Setting → Config → Config.Entry
  | .appName, c => .text c.host.appName
  | .environment, c => .text c.host.environment
  | .loggingEnabled, c => .flag c.logging.enabled
  | .level, c => .text c.logging.level
  | .format, c => .format c.logging.format
  | .includeLocation, c => .flag c.logging.includeLocation
  | .metricsEnabled, c => .flag c.metrics.enabled
  | .properties, c => .texts c.pipeline.properties

/-- The place and the name of the section of a setting in a document. -/
def sectionOf : Setting → Nat × String
  | .appName | .environment => (0, "host")
  | .loggingEnabled | .level | .format | .includeLocation => (1, "logging")
  | .metricsEnabled => (2, "metrics")
  | .properties => (3, "pipeline")

/-- The place and the name of a setting in its section. -/
def fieldOf : Setting → Nat × String
  | .appName => (0, "app_name")
  | .environment => (1, "environment")
  | .loggingEnabled => (0, "enabled")
  | .level => (1, "level")
  | .format => (2, "format")
  | .includeLocation => (3, "include_location")
  | .metricsEnabled => (0, "enabled")
  | .properties => (0, "properties")

/-- The part of a document for a setting, if the document mentions it. -/
def part? (φ : Setting) (n : Node) : Option Node :=
  (n.part? φ.sectionOf.1 φ.sectionOf.2).bind (Node.part? φ.fieldOf.1 φ.fieldOf.2)

end Setting

/-! ## What parts of a document tell -/

/-- A value that stands for nothing: what can stand beside the name of a log format. -/
def DocumentFormat.IsUnit : DocumentFormat → Node → Prop
  | .json, v => v = .null
  | .toml, v => ∃ complete, v = .seq [] complete ∨ v = .table [] complete

/-- A part of a document tells the value of a setting: texts and truth values stand for themselves,
a log format is a name, alone or beside an empty value, and a table of texts is the map in which a
later text replaces an earlier one of its name. A date is a table with a name of its own. -/
inductive Node.Tells (format : DocumentFormat) : Node → Config.Entry → Prop
  | text (s : String) : Tells format (.str s) (.text s)
  | flag (b : Bool) : Tells format (.bool b) (.flag b)
  | named {s : String} {f : LogFormat} (h : LogFormat.ofName? s = some f) :
      Tells format (.str s) (.format f)
  | tagged {s : String} {f : LogFormat} {v : Node} {complete : Bool}
      (h : LogFormat.ofName? s = some f) (hunit : format.IsUnit v) :
      Tells format (.table [(s, v)] complete) (.format f)
  | texts (entries : List (String × String)) :
      Tells format (.table (entries.map fun e => (e.1, .str e.2)) true)
        (.texts (OrderedMap.ofList entries))
  | moment (s : String) :
      Tells format (.moment s) (.texts (OrderedMap.ofList [(momentKey, s)]))

namespace Schema

variable {format : DocumentFormat} {v : Node}

/-- A part that is read as a text tells this text. -/
lemma tells_of_text {s : String} (h : text v = .ok s) : v.Tells format (.text s) := by
  cases v <;> cases h
  exact .text s

/-- A part that is read as a truth value tells this truth value. -/
lemma tells_of_flag {b : Bool} (h : flag v = .ok b) : v.Tells format (.flag b) := by
  cases v <;> cases h
  exact .flag b

/-- A name is read as the log format that it names. -/
lemma ofName?_of_logFormatNamed {s : String} {f : LogFormat} (h : logFormatNamed s = .ok f) :
    LogFormat.ofName? s = some f := by
  unfold logFormatNamed at h
  split at h
  · next f' hf =>
    cases h
    exact hf
  · cases h

/-- A part that is read as a log format tells this format. -/
lemma tells_of_logFormat {f : LogFormat} (h : logFormat format v = .ok f) :
    v.Tells format (.format f) := by
  cases format with
  | json =>
    change logFormatOrNull v = .ok f at h
    unfold logFormatOrNull at h
    split at h
    · exact .named (ofName?_of_logFormatNamed h)
    · next s content rest complete =>
      obtain ⟨f', hname, h⟩ := exists_of_bind h
      split at h
      · split_ifs at h with hend
        cases h
        obtain ⟨-, hrest⟩ := Bool.and_eq_true_iff.1 hend
        rw [List.isEmpty_iff.1 hrest]
        exact .tagged (ofName?_of_logFormatNamed hname) rfl
      · cases h
      · cases h
    · cases h
  | toml =>
    change logFormatOrEmpty v = .ok f at h
    unfold logFormatOrEmpty at h
    split at h
    · exact .named (ofName?_of_logFormatNamed h)
    · next s content complete =>
      obtain ⟨f', hname, h⟩ := exists_of_bind h
      split at h
      · cases h
        exact .tagged (ofName?_of_logFormatNamed hname) ⟨_, .inl rfl⟩
      · cases h
        exact .tagged (ofName?_of_logFormatNamed hname) ⟨_, .inr rfl⟩
      · cases h
    · cases h

/-- Members that have been stored are texts, and the table has been read to its end. -/
lemma exists_of_storeTexts {complete : Bool} {members : List (String × Node)}
    {m m' : OrderedMap String String} (h : storeTexts m complete members = .ok m') :
    complete = true ∧ ∃ entries : List (String × String),
      members = entries.map (fun e => (e.1, .str e.2)) ∧ m' = m.insertAll entries := by
  induction members generalizing m with
  | nil =>
    cases complete with
    | false => cases h
    | true => exact ⟨rfl, [], rfl, eq_of_ended h⟩
  | cons member rest ih =>
    obtain ⟨s, hs, h⟩ := exists_of_bind h
    obtain ⟨hcomplete, entries, rfl, rfl⟩ := ih h
    have hmember : member.2 = .str s := by
      cases hm : member.2 <;> rw [hm] at hs <;> cases hs
      rfl
    exact ⟨hcomplete, (member.1, s) :: entries, by rw [List.map_cons, ← hmember], rfl⟩

/-- A part that is read as a table of texts tells these texts. -/
lemma tells_of_texts {m : OrderedMap String String} (h : texts v = .ok m) :
    v.Tells format (.texts m) := by
  unfold texts at h
  split at h
  · obtain ⟨rfl, entries, rfl, rfl⟩ := exists_of_storeTexts h
    exact .texts entries
  · cases h
    exact .moment _
  · cases h
  · cases h

end Schema

/-! ## Settings in a document -/

/-- A document overrides settings one by one: a setting that it mentions becomes what the document
tells, and every other one stays what it was. -/
def Node.Overrides (n : Node) (format : DocumentFormat) (before after : Config) : Prop :=
  ∀ φ : Setting, Settled (Node.Tells format) (φ.part? n) (φ.get before) (φ.get after)

namespace Config

variable {format : DocumentFormat} {n : Node} {c : Config}

/-- A setting in a section is what the document has for it, or the standard one. -/
lemma settled_of_ofNode {τ : Type} {part : Config → τ} (entry : τ → Entry)
    {fields : List (Schema.Field τ)} {title name heading : String} {i j : Nat}
    (hsection : Owned title part
      (fun v s => readSection fields format heading (part standard) v = .ok s) i
      (sections format))
    (hfield : Owned name entry (Node.Tells format) j fields) (h : ofNode format n = .ok c) :
    Settled (Node.Tells format) ((n.part? i title).bind (Node.part? j name))
      (entry (part standard)) (entry (part c)) := by
  have htop := settled_of_readSection hsection h
  cases hpart : n.part? i title with
  | none =>
    rw [hpart] at htop
    exact congrArg entry htop
  | some v =>
    rw [hpart] at htop
    exact settled_of_readSection hfield htop

/-- The first section of a document is that of the host. -/
lemma owned_host : Owned "host" host
    (fun v s => readSection hostFields format "HostConfig" standard.host v = .ok s) 0
    (sections format) :=
  .here (.of fun _ h => h) ⟨.of (by decide) fun _ _ => rfl, .of (by decide) fun _ _ => rfl,
    .of (by decide) fun _ _ => rfl⟩

/-- The second section of a document is that of the logs. -/
lemma owned_logging : Owned "logging" logging
    (fun v s =>
      readSection (loggingFields format) format "LoggingConfig" standard.logging v = .ok s)
    1 (sections format) :=
  .there (.of (by decide) fun _ _ => rfl) (.here (.of fun _ h => h)
    ⟨.of (by decide) fun _ _ => rfl, .of (by decide) fun _ _ => rfl⟩)

/-- The third section of a document is that of the metrics. -/
lemma owned_metrics : Owned "metrics" metrics
    (fun v s => readSection metricsFields format "MetricsConfig" standard.metrics v = .ok s) 2
    (sections format) :=
  .there (.of (by decide) fun _ _ => rfl) (.there (.of (by decide) fun _ _ => rfl)
    (.here (.of fun _ h => h) (.of (by decide) fun _ _ => rfl)))

/-- The fourth section of a document is that of the pipeline. -/
lemma owned_pipeline : Owned "pipeline" pipeline
    (fun v s => readSection pipelineFields format "PipelineConfig" standard.pipeline v = .ok s) 3
    (sections format) :=
  .there (.of (by decide) fun _ _ => rfl) (.there (.of (by decide) fun _ _ => rfl)
    (.there (.of (by decide) fun _ _ => rfl) (.here (.of fun _ h => h) trivial)))

/-- A document overrides the standard settings one by one. -/
theorem overrides_of_ofNode (h : ofNode format n = .ok c) : n.Overrides format standard c := by
  intro φ
  cases φ with
  | appName =>
    exact settled_of_ofNode (fun s => .text s.appName) owned_host
      (.here (.of fun _ => tells_of_text) (.of (by decide) fun _ _ => rfl)) h
  | environment =>
    exact settled_of_ofNode (fun s => .text s.environment) owned_host
      (.there (.of (by decide) fun _ _ => rfl) (.here (.of fun _ => tells_of_text) trivial)) h
  | loggingEnabled =>
    exact settled_of_ofNode (fun s => .flag s.enabled) owned_logging
      (.here (.of fun _ => tells_of_flag) ⟨.of (by decide) fun _ _ => rfl,
        .of (by decide) fun _ _ => rfl, .of (by decide) fun _ _ => rfl⟩) h
  | level =>
    exact settled_of_ofNode (fun s => .text s.level) owned_logging
      (.there (.of (by decide) fun _ _ => rfl) (.here (.of fun _ => tells_of_text)
        ⟨.of (by decide) fun _ _ => rfl, .of (by decide) fun _ _ => rfl⟩)) h
  | format =>
    exact settled_of_ofNode (fun s => .format s.format) owned_logging
      (.there (.of (by decide) fun _ _ => rfl) (.there (.of (by decide) fun _ _ => rfl)
        (.here (.of fun _ => tells_of_logFormat) (.of (by decide) fun _ _ => rfl)))) h
  | includeLocation =>
    exact settled_of_ofNode (fun s => .flag s.includeLocation) owned_logging
      (.there (.of (by decide) fun _ _ => rfl) (.there (.of (by decide) fun _ _ => rfl)
        (.there (.of (by decide) fun _ _ => rfl) (.here (.of fun _ => tells_of_flag) trivial)))) h
  | metricsEnabled =>
    exact settled_of_ofNode (fun s => .flag s.enabled) owned_metrics
      (.here (.of fun _ => tells_of_flag) trivial) h
  | properties =>
    exact settled_of_ofNode (fun s => .texts s.properties) owned_pipeline
      (.here (.of fun _ => tells_of_texts) trivial) h

/-! ### The settings to start from -/

/-- The defaults for development set three settings, all of them about the logs. -/
lemma get_development_ne_iff (φ : Setting) : φ.get development ≠ φ.get standard ↔
    φ ∈ [Setting.level, .format, .includeLocation] := by
  cases φ <;> simp [Setting.get, development, standard, LogFormat.standard]

/-- The defaults for production set the environment and nothing else. -/
lemma get_production_ne_iff (φ : Setting) :
    φ.get production ≠ φ.get standard ↔ φ = .environment := by
  cases φ <;> simp [Setting.get, production, standard]

/-- Settings that override the standard ones override other ones exactly if the document mentions
everything in which those are not the standard ones. -/
lemma overrides_iff_of_standard (before : Config) (h : n.Overrides format standard c) :
    n.Overrides format before c ↔
      ∀ φ : Setting, φ.get before ≠ φ.get standard → (φ.part? n).isSome := by
  constructor
  · intro hbefore φ hne
    by_contra hpart
    have hnone : φ.part? n = none := Option.not_isSome_iff_eq_none.1 hpart
    have hφ := h φ
    have hφ' := hbefore φ
    rw [hnone] at hφ hφ'
    exact hne (hφ'.symm.trans hφ)
  · intro hmentioned φ
    have hφ := h φ
    cases hpart : φ.part? n with
    | some v =>
      rw [hpart] at hφ
      exact hφ
    | none =>
      rw [hpart] at hφ
      have hsame : φ.get before = φ.get standard := by
        by_contra hne
        simpa [hpart] using hmentioned φ hne
      exact hφ.trans hsame.symm

end Config

/-! ## Documents as layers -/

/-- A text of a format is a document. -/
def DocumentFormat.Reads : DocumentFormat → String → Node → Prop
  | .toml, text, n => Toml.read? text = some n
  | .json, text, n => Json.read text = (n, true)

/-- A text is one document. -/
lemma DocumentFormat.Reads.unique {format : DocumentFormat} {text : String} {n n' : Node}
    (h : format.Reads text n) (h' : format.Reads text n') : n = n' := by
  cases format with
  | toml => exact Option.some.inj (Eq.trans (Eq.symm h) h')
  | json => exact (Prod.mk.inj (Eq.trans (Eq.symm h) h')).1

namespace Loader

/-- Whether a layer is made from a document: a text, a file, or a file that may be missing and is
there. -/
def hasDocument (l : Loader) : Source → Bool
  | .file _ | .text .. => true
  | .optionalFile path => (l.directory.find? path).isSome
  | _ => false

/-- The document of a layer. The format is named with a text, and is the extension of the name of a
file. -/
inductive Gives (l : Loader) : Source → DocumentFormat → Node → Prop
  | text {content name : String} {format : DocumentFormat} {n : Node}
      (hformat : DocumentFormat.ofName? (Text.lower name) = some format)
      (hread : format.Reads content n) : Gives l (.text content name) format n
  | file {path content : String} {bytes : Bytes} {format : DocumentFormat} {n : Node}
      (hfile : l.directory.find? path = some (.file bytes))
      (hcontent : Utf8.strict? bytes = some content)
      (hformat : DocumentFormat.ofName? (Text.lower ((extension? path).getD "")) = some format)
      (hread : format.Reads content n) : Gives l (.file path) format n
  | optionalFile {path : String} {format : DocumentFormat} {n : Node}
      (h : Gives l (.file path) format n) : Gives l (.optionalFile path) format n

end Loader

namespace Config

/-- Other names for failures leave successes as they are. -/
lemma ok_of_mapError {ε ε' α : Type} {f : ε → ε'} {x : Except ε α} {a : α}
    (h : x.mapError f = .ok a) : x = .ok a := by
  cases x <;> cases h
  rfl

/-- Settings that have been read are those of a document. -/
lemma exists_of_parse {format : DocumentFormat} {text : String} {c : Config}
    (h : parse format text = .ok c) : ∃ n, format.Reads text n ∧ ofNode format n = .ok c := by
  have h := ok_of_mapError h
  cases format with
  | toml =>
    dsimp only at h
    split at h
    · next n hread => exact ⟨n, hread, h⟩
    · cases h
  | json =>
    obtain ⟨c', hnode, h⟩ := Schema.exists_of_bind h
    split_ifs at h with hwhole
    cases h
    exact ⟨(Json.read text).1, Prod.ext rfl hwhole, hnode⟩

/-- A document in a named format is read as one of that format. -/
lemma exists_of_parseNamed {name text : String} {c : Config} (h : parseNamed name text = .ok c) :
    ∃ format n, DocumentFormat.ofName? name = some format ∧ format.Reads text n ∧
      ofNode format n = .ok c := by
  unfold parseNamed at h
  split at h
  · next format hformat =>
    obtain ⟨n, hread, hnode⟩ := exists_of_parse h
    exact ⟨format, n, hformat, hread, hnode⟩
  · cases h

end Config

namespace Loader

variable {l l' : Loader}

/-- A file that has been read has a document, whose settings are taken. -/
lemma exists_gives_of_readFile {path : String} (h : l.readFile path = .ok l') :
    ∃ format n, l.Gives (.file path) format n ∧ Config.ofNode format n = .ok l'.config := by
  unfold readFile at h
  split at h
  · cases h
  · cases h
  · next bytes hfile =>
    split at h
    · cases h
    · next content hcontent =>
      obtain ⟨c, hparse, h⟩ := Schema.exists_of_bind h
      cases h
      obtain ⟨format, n, hformat, hread, hnode⟩ := Config.exists_of_parseNamed hparse
      exact ⟨format, n, .file hfile hcontent hformat hread, hnode⟩

/-- A layer made from a document that has been added has a document, whose settings are taken. -/
lemma exists_gives_of_add {source : Source} (hdocument : l.hasDocument source = true)
    (h : l.add source = .ok l') :
    ∃ format n, l.Gives source format n ∧ Config.ofNode format n = .ok l'.config := by
  cases source with
  | text content name =>
    obtain ⟨c, hparse, h⟩ := Schema.exists_of_bind h
    cases h
    obtain ⟨format, n, hformat, hread, hnode⟩ := Config.exists_of_parseNamed hparse
    exact ⟨format, n, .text hformat hread, hnode⟩
  | file path => exact exists_gives_of_readFile h
  | optionalFile path =>
    obtain ⟨entry, hentry⟩ := Option.isSome_iff_exists.1 hdocument
    have hadd : l.add (.optionalFile path) = l.readFile path := by simp [add, hentry]
    rw [hadd] at h
    obtain ⟨format, n, hgives, hnode⟩ := exists_gives_of_readFile h
    exact ⟨format, n, .optionalFile hgives, hnode⟩
  | _ => cases hdocument

/-- A layer has one document. -/
lemma Gives.unique {source : Source} {format format' : DocumentFormat} {n n' : Node}
    (h : l.Gives source format n) (h' : l.Gives source format' n') : format = format' ∧ n = n' := by
  induction h with
  | text hformat hread =>
    cases h' with
    | text hformat' hread' =>
      cases hformat.symm.trans hformat'
      exact ⟨rfl, hread.unique hread'⟩
  | file hfile hcontent hformat hread =>
    cases h' with
    | file hfile' hcontent' hformat' hread' =>
      cases hfile.symm.trans hfile'
      cases hcontent.symm.trans hcontent'
      cases hformat.symm.trans hformat'
      exact ⟨rfl, hread.unique hread'⟩
  | optionalFile _ ih =>
    cases h' with
    | optionalFile h' => exact ih h'

/-- **Documents replace all settings.** When a layer made from a document is added, every setting
that the document mentions becomes what it tells, and every other one becomes the standard one. So
the document overrides the settings before it one by one exactly if it mentions all those that are
not the standard ones. After the standard settings it always does; after the settings for work on
the host it must mention the level, the format and the location, and after those for a host in use
the environment.

**Proof sketch.** The settings are read section by section from the standard ones, and every setting
belongs to one field of one section (`Config.overrides_of_ofNode`). The settings before the document
play no part, so they are kept where they agree with the standard ones and nowhere else
(`Config.overrides_iff_of_standard`). -/
theorem overrides_iff {source : Source} (hdocument : l.hasDocument source = true)
    (h : l.add source = .ok l') :
    (∃ format n, l.Gives source format n) ∧ ∀ format n, l.Gives source format n →
      let kept := n.Overrides format l.config l'.config
      n.Overrides format Config.standard l'.config ∧
      (kept ↔ ∀ φ : Setting, φ.get l.config ≠ φ.get Config.standard → (φ.part? n).isSome) ∧
      (l.config = Config.development →
        (kept ↔ ∀ φ ∈ [Setting.level, .format, .includeLocation], (φ.part? n).isSome)) ∧
      (l.config = Config.production → (kept ↔ (Setting.environment.part? n).isSome)) := by
  obtain ⟨format, n, hgives, hnode⟩ := exists_gives_of_add hdocument h
  refine ⟨⟨format, n, hgives⟩, fun format' n' hgives' => ?_⟩
  obtain ⟨rfl, rfl⟩ := hgives.unique hgives'
  have hstandard := Config.overrides_of_ofNode hnode
  have hiff := Config.overrides_iff_of_standard l.config hstandard
  refine ⟨hstandard, hiff, fun hconfig => ?_, fun hconfig => ?_⟩
  · rw [hiff, hconfig]
    simp only [Config.get_development_ne_iff]
  · rw [hiff, hconfig]
    simp only [Config.get_production_ne_iff, forall_eq]

/-- After the settings for a host in use, a document that mentions only the name of the app takes
the environment back to the standard one. -/
theorem overrides_iff_production_lost :
    let l := { Loader.new .empty .empty with config := Config.production }
    let content := "[host]\napp_name = \"orders\"\n"
    let source := Source.text content "toml"
    (Loader.new .empty .empty).add .production = .ok l ∧ ∃ l' n, l.add source = .ok l' ∧
      l.Gives source .toml n ∧ Setting.environment.part? n = none ∧
      Setting.environment.get l'.config = .text "development" ∧
      ¬ n.Overrides .toml l.config l'.config := by
  intro l content source
  have hadd : ∃ l', l.add source = .ok l' := by
    have hok : (l.add source).isOk = true := by decide +kernel
    cases h : l.add source with
    | ok l' => exact ⟨l', rfl⟩
    | error e =>
      rw [h] at hok
      cases hok
  obtain ⟨l', hl'⟩ := hadd
  obtain ⟨⟨format, n, hgives⟩, hoverrides⟩ := overrides_iff rfl hl'
  obtain ⟨hstandard, -, -, hproduction⟩ := hoverrides format n hgives
  obtain ⟨hformat, hread⟩ : DocumentFormat.ofName? (Text.lower "toml") = some format ∧
      format.Reads content n := by
    have hgives : l.Gives (.text content "toml") format n := hgives
    cases hgives with
    | text hformat hread => exact ⟨hformat, hread⟩
  have htoml : DocumentFormat.ofName? (Text.lower "toml") = some .toml := by decide +kernel
  cases htoml.symm.trans hformat
  have hnot : Setting.environment.part? n = none := by
    have hnone : (((Toml.read? content).bind Setting.environment.part?).isNone) = true := by
      decide +kernel
    have hread : Toml.read? content = some n := hread
    rw [hread] at hnone
    exact Option.isNone_iff_eq_none.1 hnone
  have henvironment := hstandard .environment
  rw [hnot] at henvironment
  refine ⟨rfl, l', n, hl', hgives, hnot, henvironment, ?_⟩
  rw [hproduction rfl, hnot]
  simp

end Loader

end Pipework
