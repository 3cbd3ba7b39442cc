import DocReport.Proofs.Files.Frame
import DocReport.Proofs.Yaml.Mapping
import DocReport.Settings
import Mathlib.Control.Monad.Basic
import Mathlib.Tactic.Choose

/-!
Which value each setting has. A document that is nothing or a mapping, with sections that are
missing or mappings, gives every setting the value under its key or else its default; a section
that is there but empty is refused.
-/
namespace DocReport.Settings

open Files (FileSystem Path)
open Yaml (Value)

/-- The sections of a settings file. -/
inductive Heading where
  | selection | rendering | output | logs
  deriving DecidableEq, Repr

def Heading.name : Heading → String
  | .selection => "parser"
  | .rendering => "render"
  | .output => "output"
  | .logs => "logging"

/-- The single settings. -/
inductive Field where
  | extensions | excludedDirectories | excludedFiles
  | codeLanguage | preserveParagraphs | inlineSpacing
  | outputFile | title
  | logLevel | logFormat | logFile
  deriving DecidableEq, Repr

namespace Field

/-- The section in which a setting stands. -/
def heading : Field → Heading
  | extensions | excludedDirectories | excludedFiles => .selection
  | codeLanguage | preserveParagraphs | inlineSpacing => .rendering
  | outputFile | title => .output
  | logLevel | logFormat | logFile => .logs

/-- The key of a setting in its section. -/
def key : Field → String
  | extensions => "extensions"
  | excludedDirectories => "exclude_dirs"
  | excludedFiles => "exclude_files"
  | codeLanguage => "code_language"
  | preserveParagraphs => "preserve_paragraphs"
  | inlineSpacing => "inline_spacing"
  | outputFile => "output_file"
  | title => "title"
  | logLevel => "level"
  | logFormat => "format"
  | logFile => "file"

end Field

/-- The value of one setting. -/
def value (settings : Settings) : Field → Value
  | .extensions => settings.selection.extensions
  | .excludedDirectories => settings.selection.excludedDirectories
  | .excludedFiles => settings.selection.excludedFiles
  | .codeLanguage => settings.rendering.codeLanguage
  | .preserveParagraphs => settings.rendering.preserveParagraphs
  | .inlineSpacing => settings.rendering.inlineSpacing
  | .outputFile => settings.output.file
  | .title => settings.output.title
  | .logLevel => settings.logs.level
  | .logFormat => settings.logs.format
  | .logFile => settings.logs.file

/-- The settings that four sections give. -/
def ofSections (given : Heading → Entries) : Settings :=
  { selection := .ofEntries (given .selection)
    rendering := .ofEntries (given .rendering)
    output := .ofEntries (given .output)
    logs := .ofEntries (given .logs) }

/-- Every setting is looked up under its own key in its own section, and falls back to the value
that it has in settings that nothing was said about. -/
theorem value_ofSections (given : Heading → Entries) (field : Field) :
    (ofSections given).value field =
      get (given field.heading) field.key (({} : Settings).value field) := by
  cases field <;> rfl

/-- Reads the sections in their order. -/
def readSections (sections : Heading → Except Failure Entries) : Except Failure Settings := do
  let selection ← sections .selection
  let rendering ← sections .rendering
  let output ← sections .output
  let logs ← sections .logs
  .ok (ofSections fun
    | .selection => selection
    | .rendering => rendering
    | .output => output
    | .logs => logs)

section Sections

variable {sections : Heading → Except Failure Entries}

theorem readSections_eq_ok {given : Heading → Entries}
    (each : ∀ heading, sections heading = .ok (given heading)) :
    readSections sections = .ok (ofSections given) := by
  simp only [readSections, each]
  rfl

/-- One section that fails stops it all, whichever of the four it is. -/
theorem readSections_eq_error {failure : Failure} {heading : Heading}
    (failed : sections heading = .error failure)
    (each : ∀ other, sections other = .error failure ∨ ∃ given, sections other = .ok given) :
    readSections sections = .error failure := by
  rcases each .selection with first | ⟨_, first⟩
  · simp only [readSections, first]; rfl
  rcases each .rendering with second | ⟨_, second⟩
  · simp only [readSections, first, second]; rfl
  rcases each .output with third | ⟨_, third⟩
  · simp only [readSections, first, second, third]; rfl
  rcases each .logs with fourth | ⟨_, fourth⟩
  · simp only [readSections, first, second, third, fourth]; rfl
  cases heading <;> simp_all

end Sections

/-- A value is a mapping that holds another under a key. -/
def Holds (mapping : Value) (key : String) (held : Value) : Prop :=
  ∃ entries, mapping = .map entries ∧ (.text key.toList, held) ∈ entries

/-- A document from which settings can be expected: nothing, or a mapping whose sections, as far as
they are there, are empty or mappings. -/
structure IsForm (document : Value) : Prop where
  shape : document = .null ∨ ∃ entries, document = .map entries
  sections : ∀ (heading : Heading) (held : Value), Holds document heading.name held →
    held = .null ∨ ∃ entries, held = .map entries

/-- The failure on a section that is empty. -/
def emptySection : Failure :=
  .wrongType .entries Value.null.typeName

/-- The entries of a document. -/
def entriesOf : Value → Entries
  | .map entries => entries
  | _ => []

section Document

variable {document : Value}

theorem holds_iff (proper : document.Proper) {key : String} {held : Value} :
    Holds document key held ↔ Value.entry? key.toList (entriesOf document) = some held := by
  constructor
  · rintro ⟨entries, rfl, member⟩
    exact Value.entry?_of_mem proper.distinct member
  · intro found
    have member := Value.mem_of_entry? found
    cases document with
    | map entries => exact ⟨entries, rfl, member⟩
    | _ => cases member

theorem ofValue_eq (form : IsForm document) :
    ofValue document =
      readSections fun heading => sectionEntries heading.name (entriesOf document) := by
  rcases form.shape with rfl | ⟨entries, rfl⟩
  · rfl
  · cases entries <;> rfl

/-- A section is refused if it is empty, and else holds what the document holds in it. -/
theorem sectionEntries_cases (form : IsForm document) (proper : document.Proper)
    (heading : Heading) :
    (Holds document heading.name .null ∧
      sectionEntries heading.name (entriesOf document) = .error emptySection) ∨
    ∃ given, ¬ Holds document heading.name .null ∧
      sectionEntries heading.name (entriesOf document) = .ok given ∧
      ∀ (key : String) (held : Value), Value.entry? key.toList given = some held ↔
        ∃ inner, Holds document heading.name inner ∧ Holds inner key held := by
  cases found : Value.entry? heading.name.toList (entriesOf document) with
  | none =>
    have absent (held : Value) : ¬ Holds document heading.name held := by
      rw [holds_iff proper, found]
      exact Option.some_ne_none held ∘ Eq.symm
    refine .inr ⟨[], absent .null, by rw [sectionEntries, found], fun key held => ⟨nofun, ?_⟩⟩
    rintro ⟨inner, there, -⟩
    exact (absent inner there).elim
  | some inner =>
    have there : Holds document heading.name inner := (holds_iff proper).2 found
    have only {other : Value} (also : Holds document heading.name other) : other = inner := by
      rw [holds_iff proper, found] at also
      exact (Option.some.inj also).symm
    rcases form.sections heading inner there with rfl | ⟨given, rfl⟩
    · exact .inl ⟨there, by rw [sectionEntries, found]; rfl⟩
    · obtain ⟨entries, rfl, member⟩ := there
      have own : Value.Proper (.map given) := proper.entry member
      refine .inr ⟨given, fun null => ?_, by rw [sectionEntries, found]; rfl, fun key held => ?_⟩
      · cases only null
      · refine (holds_iff own).symm.trans ⟨fun inside => ⟨_, ⟨entries, rfl, member⟩, inside⟩, ?_⟩
        rintro ⟨inner, there, inside⟩
        exact only there ▸ inside

/-- What a document says about a setting. -/
def Gives (document : Value) (field : Field) (held : Value) : Prop :=
  ∃ inner, Holds document field.heading.name inner ∧ Holds inner field.key held

/-- A document with an empty section is refused. -/
theorem ofValue_of_empty (form : IsForm document) (proper : document.Proper)
    (empty : ∃ heading : Heading, Holds document heading.name .null) :
    ofValue document = .error emptySection := by
  obtain ⟨heading, null⟩ := empty
  rw [ofValue_eq form]
  refine readSections_eq_error (?_ : sectionEntries heading.name _ = _) fun other => ?_
  · rcases sectionEntries_cases form proper heading with ⟨-, failed⟩ | ⟨_, full, -⟩
    · exact failed
    · exact (full null).elim
  · exact (sectionEntries_cases form proper other).imp And.right fun ⟨given, _, read, _⟩ =>
      ⟨given, read⟩

/-- A document without an empty section gives every setting what it says, or its default. -/
theorem ofValue_of_full (form : IsForm document) (proper : document.Proper)
    (full : ∀ heading : Heading, ¬ Holds document heading.name .null) :
    ∃ settings, ofValue document = .ok settings ∧ ∀ field : Field,
      (∀ held, Gives document field held → settings.value field = held) ∧
      ((∀ held, ¬ Gives document field held) →
        settings.value field = ({} : Settings).value field) := by
  have each (heading : Heading) := (sectionEntries_cases form proper heading).resolve_left
    fun empty => full heading empty.1
  choose given _ read looked using each
  refine ⟨ofSections given, (ofValue_eq form).trans (readSections_eq_ok read), fun field => ?_⟩
  rw [value_ofSections, get]
  refine ⟨fun held gives => ?_, fun silent => ?_⟩
  · rw [(looked field.heading field.key held).2 gives]
    rfl
  · cases found : Value.entry? field.key.toList (given field.heading) with
    | none => rfl
    | some held => exact (silent held ((looked field.heading field.key held).1 found)).elim

end Document

section File

variable {fs : FileSystem} {path : Text} {document : Value}

theorem proper_of_readValue {p : Path} (read : readValue fs p = .ok document) :
    document.Proper := by
  unfold readValue at read
  split at read
  · cases read
  · split at read
    · cases read
    · split at read
      · cases read
      · cases read
      · rename_i loaded
        cases read
        exact Yaml.proper_of_load loaded

theorem load_of_readValue (named : path ≠ [])
    (read : readValue fs (Path.ofText path) = .ok document) :
    (load fs (some path)).value = ofValue document := by
  have found : fs.exists? (Path.ofText path) = true := by
    cases content : fs.read (Path.ofText path) with
    | error fault => simp [readValue, content] at read
    | ok octets => exact FileSystem.exists?_iff.2 (.inl (FileSystem.isFile_iff.2 ⟨octets, content⟩))
  cases path with
  | nil => exact absurd rfl named
  | cons c r => simp only [load, found, if_true, read]

end File

/-- From a settings file that holds nothing, or a mapping whose sections are missing, empty or
mappings, settings are found exactly if none of the sections is empty. Then each setting has the
value that the file gives under its key in its section, and its default if it gives none, whatever
the file says about other settings. -/
theorem settings_found_iff_no_section_empty (fs : FileSystem) (path : Text) (document : Value)
    (named : path ≠ []) (read : readValue fs (Path.ofText path) = .ok document)
    (form : IsForm document) :
    ((∃ settings, (load fs (some path)).value = .ok settings ∧ ∀ field : Field,
        (∀ held, Gives document field held → settings.value field = held) ∧
        ((∀ held, ¬ Gives document field held) →
          settings.value field = ({} : Settings).value field)) ↔
      ∀ heading : Heading, ¬ Holds document heading.name .null) ∧
    ((∃ heading : Heading, Holds document heading.name .null) →
      (load fs (some path)).value = .error emptySection) := by
  have proper := proper_of_readValue read
  rw [load_of_readValue named read]
  refine ⟨⟨?_, ofValue_of_full form proper⟩, ofValue_of_empty form proper⟩
  rintro ⟨settings, loaded, -⟩ heading null
  rw [ofValue_of_empty form proper ⟨heading, null⟩] at loaded
  cases loaded

/-- A settings file that gives the title only. -/
def titleFile : FileSystem :=
  { here := [], items := [([['t']], .file (Text.toOctets "output:\n  title: A\n".toList))] }

def titleDocument : Value :=
  .map [(.text "output".toList, .map [(.text "title".toList, .text ['A'])])]

theorem holds_titleDocument {key : String} {held : Value} (holds : Holds titleDocument key held) :
    key.toList = "output".toList ∧ held = .map [(.text "title".toList, .text ['A'])] := by
  obtain ⟨entries, same, member⟩ := holds
  cases same
  simpa using member

theorem isForm_titleDocument : IsForm titleDocument where
  shape := .inr ⟨_, rfl⟩
  sections _ _ holds := .inr ⟨_, (holds_titleDocument holds).2⟩

theorem settings_found_for_title :
    readValue titleFile (Path.ofText ['t']) = .ok titleDocument ∧
    ∃ settings, (load titleFile (some ['t'])).value = .ok settings ∧
      settings.value .title = .text ['A'] ∧
      ∀ field, field ≠ .title → settings.value field = ({} : Settings).value field := by
  have read : readValue titleFile (Path.ofText ['t']) = .ok titleDocument := by decide +kernel
  have full (heading : Heading) : ¬ Holds titleDocument heading.name .null := fun null => by
    cases (holds_titleDocument null).2
  obtain ⟨settings, loaded, fields⟩ := (settings_found_iff_no_section_empty titleFile ['t']
    titleDocument (by decide) read isForm_titleDocument).1.2 full
  refine ⟨read, settings, loaded, ?_, fun field other => ?_⟩
  · exact (fields .title).1 _
      ⟨_, ⟨_, rfl, List.mem_singleton.2 rfl⟩, _, rfl, List.mem_singleton.2 rfl⟩
  · refine (fields field).2 ?_
    rintro held ⟨inner, there, inside⟩
    obtain ⟨-, rfl⟩ := holds_titleDocument there
    obtain ⟨entries, same, member⟩ := inside
    cases same
    cases field <;> simp_all [Field.key]

/-- A settings file with a section in which nothing is said. -/
def bareFile : FileSystem :=
  { here := [], items := [([['b']], .file (Text.toOctets "parser:\n".toList))] }

/-- A section in which nothing is said has no defaults: it stops the program. -/
theorem empty_section_refused :
    readValue bareFile (Path.ofText ['b']) = .ok (.map [(.text "parser".toList, .null)]) ∧
    IsForm (.map [(.text "parser".toList, .null)]) ∧
    (load bareFile (some ['b'])).value = .error emptySection ∧
    emptySection.message = "'NoneType' object has no attribute 'get'".toList := by
  have read : readValue bareFile (Path.ofText ['b']) =
      .ok (.map [(.text "parser".toList, .null)]) := by
    decide +kernel
  have form : IsForm (.map [(.text "parser".toList, .null)]) := by
    refine ⟨.inr ⟨_, rfl⟩, fun heading held holds => ?_⟩
    obtain ⟨entries, same, member⟩ := holds
    cases same
    simp only [List.mem_singleton, Prod.mk.injEq] at member
    exact .inl member.2
  refine ⟨read, form, ?_, by decide⟩
  rw [load_of_readValue (by decide) read]
  exact ofValue_of_empty form (proper_of_readValue read)
    ⟨.selection, _, rfl, List.mem_singleton.2 rfl⟩

end DocReport.Settings
