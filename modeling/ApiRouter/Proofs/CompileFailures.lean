import ApiRouter.CommandLine.Run
import ApiRouter.Proofs.Containment

set_option autoImplicit false

/-! # How compiling for a command fails

Before a router there are four stages: the settings are put together, the document format is looked
up, the document is loaded, and it is compiled. The failures of each are reports, provided that the
files and the source of the document can be decoded and that the document is well typed. Where they
are not, failures of other kinds escape. -/

namespace ApiRouter

/-! ## What can be decoded -/

/-- A text within the limits of the JSON reader, whether it is JSON or not. -/
def Json.IsBounded (text : String) : Prop :=
  Json.read text ≠ .error .tooDeep ∧ Json.read text ≠ .error .tooManyDigits

/-- A text whose values can all be made if it is YAML. -/
def Yaml.IsBounded (text : String) : Prop :=
  ∀ cause, Yaml.read text ≠ .error (.defect cause)

/-- A text within the limits of the readers for a format. Where the format is not told, YAML only
    matters if the text is no JSON. -/
structure Format.IsBounded (format : Format) (text : String) : Prop where
  json : format ≠ .yaml → Json.IsBounded text
  yaml : format = .yaml ∨ format = .either ∧ (∃ e, Json.read text = .error e) →
    Yaml.IsBounded text

/-- A path that is not too long, with nothing there that is to be read, or a file that cannot be
    read, or one with a text within some limits. -/
def Files.IsLegible (files : Files) (path : String) (isBounded : String → Prop) : Prop :=
  ∃ source, files.file? path = .ok source ∧ source ≠ some .undecodable ∧
    ∀ text, source = some (.text text) → isBounded (String.ofList (Text.unifyNewlines text.toList))

namespace Source

/-- A source of a document that can be decoded, if there is one: no bytes that are no text, an
    address in which nothing is malformed, and a text within the limits of the readers. -/
def IsLegible (w : Workspace) (argument : String) : Prop :=
  if argument == "-" then
    w.stdin ≠ .undecodable ∧ ∀ text, w.stdin = .text text → Format.IsBounded .either text
  else if argument.startsWith "http://" || argument.startsWith "https://" then
    Address.check argument = .ok () ∧
      ∀ status contentType content, w.fetch argument = .response status contentType content →
        ∃ text, textOf contentType content = .ok text ∧
          Format.IsBounded (.ofContentType contentType) text
  else w.files.IsLegible argument (Format.IsBounded (.ofPath argument))

end Source

namespace Contained

/-! ## Loading -/

theorem asDocument (v : Value) : Contained [7] (Source.asDocument v) := by
  unfold Source.asDocument
  split
  · exact ok _
  · exact fail (by decide) _
  · exact fail (by decide) _

theorem ofYaml {text : String} (h : Yaml.IsBounded text) (complaints : List String) :
    Contained [7] (Source.ofYaml complaints text) := by
  unfold Source.ofYaml
  split
  · exact asDocument _
  · next cause hcause => exact absurd hcause (h cause)
  · exact fail (by decide) _

theorem ofText {format : Format} {text : String} (h : format.IsBounded text) :
    Contained [7] (Source.ofText format text) := by
  unfold Source.ofText
  split
  · next hformat => exact ofYaml (h.yaml (.inl (by simpa using hformat))) []
  · next hformat =>
      have hjson : Json.IsBounded text := h.json (by simpa using hformat)
      split
      · exact asDocument _
      · next hdeep => exact absurd hdeep hjson.1
      · next hdigits => exact absurd hdigits hjson.2
      · next e _ _ he =>
          split
          · exact fail (by decide) _
          · next hother =>
              -- neither format is told, so the text is tried as YAML
              have heither : format = .either := by
                cases format with
                | json => cases hother rfl
                | yaml => cases hformat rfl
                | either => rfl
              exact ofYaml (h.yaml (.inr ⟨heither, e, he⟩)) _

theorem fromStdin {w : Workspace} (hdecodable : w.stdin ≠ .undecodable)
    (hbounded : ∀ text, w.stdin = .text text → Format.IsBounded .either text) :
    Contained [7] (Source.fromStdin w) := by
  unfold Source.fromStdin
  split
  · exact fail (by decide) _
  · next h => exact absurd h hdecodable
  · next text h =>
      split
      · exact fail (by decide) _
      · exact ofText (hbounded text h)

theorem fromUrl {w : Workspace} {url : String} (haddress : Address.check url = .ok ())
    (hbounded : ∀ status contentType content, w.fetch url = .response status contentType content →
      ∃ text, Source.textOf contentType content = .ok text ∧
        Format.IsBounded (.ofContentType contentType) text) :
    Contained [7] (Source.fromUrl w url) := by
  unfold Source.fromUrl
  rw [haddress, Outcome.ok_bind]
  split
  · exact fail (by decide) _
  · next status contentType content h =>
      obtain ⟨text, htext, hbounded⟩ := hbounded _ _ _ h
      split
      · rw [htext, Outcome.ok_bind]
        exact ofText hbounded
      · exact fail (by decide) _

theorem fromFile {w : Workspace} {path : String}
    (h : w.files.IsLegible path (Format.IsBounded (.ofPath path))) :
    Contained [7] (Source.fromFile w path) := by
  obtain ⟨source, hsource, hdecodable, hbounded⟩ := h
  unfold Source.fromFile
  rw [hsource, Outcome.ok_bind]
  split
  · exact fail (by decide) _
  · exact fail (by decide) _
  · exact absurd rfl hdecodable
  · next text =>
      split
      · exact fail (by decide) _
      · exact ofText (hbounded text rfl)

theorem read {w : Workspace} {argument : String} (h : Source.IsLegible w argument) :
    Contained [7] (Source.read w argument) := by
  unfold Source.IsLegible at h
  unfold Source.read
  split
  · next hstdin =>
      rw [if_pos hstdin] at h
      exact fromStdin h.1 h.2
  · next hstdin =>
      rw [if_neg hstdin] at h
      split
      · next hurl =>
          rw [if_pos hurl] at h
          exact fromUrl h.1 h.2
      · next hurl =>
          rw [if_neg hurl] at h
          exact fromFile h

end Contained

/-- The paths of a well-typed document can be counted. -/
theorem Source.hasCountablePaths_of_isTyped {document : Entries}
    (h : Api.isTyped document = true) : hasCountablePaths document = true := by
  obtain ⟨h, -⟩ := Bool.and_eq_true_iff.1 h
  obtain ⟨h, -⟩ := Bool.and_eq_true_iff.1 h
  obtain ⟨-, hpaths⟩ := Bool.and_eq_true_iff.1 h
  unfold hasCountablePaths
  unfold Api.arePaths at hpaths
  split
  · rfl
  · rfl
  · rfl
  · next hmap =>
      split at hpaths
      · next paths hpaths' => exact absurd hpaths' (hmap paths)
      · exact hpaths

namespace Contained

theorem load {w : Workspace} {argument : String} (h : Source.IsLegible w argument)
    (htyped : ∀ document, Source.read w argument = .ok document → Api.isTyped document = true) :
    Contained [7] (Source.load w argument) := by
  refine (read h).bind fun document hdocument => ?_
  rw [if_pos (Source.hasCountablePaths_of_isTyped (htyped document hdocument))]
  exact ok _

/-! ## Settings -/

theorem fileLayer {files : Files} {path : String} (h : files.IsLegible path Json.IsBounded)
    (label : String) : Contained [1] (Configuration.fileLayer files label path) := by
  obtain ⟨source, hsource, hdecodable, hbounded⟩ := h
  unfold Configuration.fileLayer
  simp only
  rw [hsource, Outcome.ok_bind]
  split
  · exact ok _
  · exact fail (by decide) _
  · exact absurd rfl hdecodable
  · next text =>
      split
      · exact ok _
      · exact fail (by decide) _
      · next hdeep => exact absurd hdeep (hbounded text rfl).1
      · next hdigits => exact absurd hdigits (hbounded text rfl).2
      · exact fail (by decide) _

theorem readSwitch (name value : String) :
    Contained [1] (Configuration.readSwitch name value) := by
  unfold Configuration.readSwitch
  split
  -- all but the last are words for a truth value
  case h_9 => exact fail (by decide) _
  all_goals exact ok _

theorem switchFields (w : Workspace) (ss : List (String × String)) :
    Contained [1] (Configuration.switchFields w ss) := by
  induction ss with
  | nil => exact ok _
  | cons s rest ih =>
      obtain ⟨name, field⟩ := s
      rw [Configuration.switchFields]
      split
      · exact ih
      · exact (readSwitch name _).bind fun _ _ => ih.bind fun _ _ => ok _

end Contained

namespace CommandLine

/-- Surroundings in which everything that compiling reads can be decoded: the directory for the
    configuration of the user can be made, which gives `made`, and the configuration of the user and
    that of the project are legible, as is the source of the document. -/
structure IsLegible (w : Workspace) (spec directory : String) (made : Workspace) : Prop where
  home : Configuration.configDirectory w = .ok directory
  withHome : w.withDirectory directory = .ok made
  user : made.files.IsLegible (Path.join directory "config.json") Json.IsBounded
  project : w.files.IsLegible
    (Path.join w.files.directoryPath (Configuration.programName ++ ".json")) Json.IsBounded
  source : Source.IsLegible made spec

end CommandLine

namespace Contained

variable {w made : Workspace} {spec directory : String}

theorem resolve (h : CommandLine.IsLegible w spec directory made)
    (overrides : Configuration.Overrides) : Contained [1] (Configuration.resolve w overrides) := by
  have huser : Contained [1] (Configuration.userLayer w) := by
    unfold Configuration.userLayer
    rw [h.home, Outcome.ok_bind, h.withHome, Outcome.ok_bind]
    exact fileLayer h.user _
  have henvironment : Contained [1] (Configuration.environmentLayer w) :=
    (switchFields w _).bind fun _ _ => ok _
  have hlayered : Contained [1] (Configuration.layered w overrides) :=
    huser.bind fun _ _ => (fileLayer h.project _).bind fun _ _ => henvironment.bind fun _ _ => ok _
  refine hlayered.bind fun layers _ => ?_
  cases Settings.ofEntries layers with
  | ok settings => exact ok settings
  | issues found =>
      rintro f ⟨⟩
      exact ⟨_, rfl, List.mem_singleton.2 rfl⟩

theorem requireDriver (name : String) : Contained [2] (Settings.requireDriver name) := by
  unfold Settings.requireDriver
  split
  · exact ok _
  · exact fail (by decide) _

end Contained

namespace CommandLine

variable {w made : Workspace} {c : Command} {directory : String}

/-- A document with a pattern that is no regular expression. -/
def patternText : String :=
  "\x7b\"swagger\":\"2.0\",\"definitions\":\x7b\x7d,\"paths\":\x7b\"/pets\":\x7b\"get\":" ++
    "\x7b\"parameters\":[\x7b\"name\":\"id\",\"pattern\":\"(\"\x7d]\x7d\x7d\x7d\x7d"

end CommandLine

end ApiRouter
