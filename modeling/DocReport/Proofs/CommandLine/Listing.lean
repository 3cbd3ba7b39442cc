import DocReport.CommandLine.Command
import DocReport.Proofs.Text.Basic

/-!
What the listing of a project prints. A run logs records and prints lines, one after the other, so
the listing is told as the row of these acts: first the records on reading the files, then file by
file the lines of its members, each behind the records on binding its documentation, and last the
total.
-/
namespace DocReport

/-- What a run does to be seen: it logs a record, or it prints a line. -/
inductive Act where
  | logs (record : Record)
  | prints (line : Text)
  deriving DecidableEq, Repr

/-- The line that an act prints. -/
def Act.line? : Act → Option Text
  | .logs _ => none
  | .prints line => some line

/-- The lines that acts print, in order. -/
def printed (acts : List Act) : List Text :=
  acts.filterMap Act.line?

@[simp] theorem printed_append (acts others : List Act) :
    printed (acts ++ others) = printed acts ++ printed others :=
  List.filterMap_append

@[simp] theorem printed_prints (line : Text) (acts : List Act) :
    printed (.prints line :: acts) = line :: printed acts := rfl

@[simp] theorem printed_logs (records : List Record) : printed (records.map Act.logs) = [] := by
  induction records with
  | nil => rfl
  | cons record rest ih => exact ih

theorem printed_flatMap {α : Type} (acts : α → List Act) (xs : List α) :
    printed (xs.flatMap acts) = xs.flatMap fun x => printed (acts x) := by
  induction xs with
  | nil => rfl
  | cons x rest ih => rw [List.flatMap_cons, List.flatMap_cons, printed_append, ih]

namespace Session

/-- Does one act. -/
def act (s : Session) : Act → Session
  | .logs record => s.log [record]
  | .prints line => s.print line

/-- Does acts in order. -/
def perform (s : Session) (acts : List Act) : Session :=
  acts.foldl act s

theorem perform_append (s : Session) (acts others : List Act) :
    s.perform (acts ++ others) = (s.perform acts).perform others :=
  List.foldl_append

theorem log_eq_perform (s : Session) (records : List Record) :
    s.log records = s.perform (records.map Act.logs) := by
  induction records generalizing s with
  | nil => rfl
  | cons record rest ih => exact ih (s.log [record])

end Session

namespace CommandLine

open Files (FileSystem Path)
open Compilation (Index)

/-- The source file at a path, if it can be read and is text. -/
def sourceAt? (fs : FileSystem) (path : Path) : Option SourceFile :=
  match fs.read (Path.ofText path.toText) with
  | .error _ => none
  | .ok octets =>
    match Text.Utf8.decodeMarked octets with
    | .error _ => none
    | .ok text => some (Source.read path.toText (Text.unifyLineEnds text))

/-- A file is read in, left out because it is no text, or stops the reading. -/
theorem readSource_cases (fs : FileSystem) (path : Path) :
    (∃ file, (Report.readSource fs path.toText).value = .ok file ∧
        sourceAt? fs path = some file) ∨
    (∃ fault, (Report.readSource fs path.toText).value = .error (.undecodable fault) ∧
        sourceAt? fs path = none) ∨
    (∃ failure, (Report.readSource fs path.toText).value = .error failure ∧
        ∀ fault, failure ≠ .undecodable fault) := by
  unfold Report.readSource sourceAt?
  dsimp only
  by_cases found : fs.exists? (Path.ofText path.toText) = true
  · rw [if_pos found]
    cases fs.read (Path.ofText path.toText) with
    | error fault => exact .inr (.inr ⟨_, rfl, by simp⟩)
    | ok octets =>
      dsimp only
      cases Text.Utf8.decodeMarked octets with
      | error fault => exact .inr (.inl ⟨fault, rfl, rfl⟩)
      | ok text => exact .inl ⟨_, rfl, rfl⟩
  · rw [if_neg found]
    exact .inr (.inr ⟨_, rfl, by simp⟩)

/-- Files that are read without a failure are those that are text, in order. -/
theorem readSources_eq_ok {fs : FileSystem} {paths : List Path} {sources : List SourceFile}
    (done : (Report.readSources fs paths).value = .ok sources) :
    sources = paths.filterMap (sourceAt? fs) := by
  induction paths generalizing sources with
  | nil => cases done; rfl
  | cons path rest ih =>
    rw [Report.readSources, Logged.value_bind] at done
    rcases readSource_cases fs path with ⟨file, ends, text⟩ | ⟨fault, ends, noText⟩ |
      ⟨failure, ends, fatal⟩
    · rw [ends] at done
      dsimp only at done
      rw [Logged.value_bind, Logged.value_pure] at done
      cases others : (Report.readSources fs rest).value with
      | error failure => rw [others] at done; cases done
      | ok found =>
        rw [others] at done
        cases done
        rw [List.filterMap_cons_some text, ih others]
    · rw [ends] at done
      rw [List.filterMap_cons_none noText, ih done]
    · rw [ends] at done
      exfalso
      revert done
      split
      · rename_i same; cases same
      · rename_i fault same
        cases same
        exact absurd rfl (fatal fault)
      · exact fun done => by cases done

/-- Whether a declaration declares a member: all but namespaces do. -/
def declaresMember (d : Declaration) : Bool :=
  d.kind != .namespaceKind

/-- The declarations that a listing has under a file. -/
def listedIn (file : SourceFile) : List Declaration :=
  file.documented.filter declaresMember

/-- The line of a declaration in a listing. -/
def entryLine (d : Declaration) : Text :=
  "  ".toList ++ Symbol.signature d ++ "  [".toList ++ Symbol.documentationId d ++
    "]  (line ".toList ++ Text.ofNat d.line ++ ")".toList

/-- The lines that a listing has for a file: none if nothing in it is documented. -/
def fileListing (file : SourceFile) : List Text :=
  if file.documented.isEmpty then [] else file.path :: (listedIn file).map entryLine

/-- The last line of a listing. -/
def totalLine (count : Nat) : Text :=
  "Total: ".toList ++ Text.ofNat count ++ " documented members".toList

/-- The number of declarations in a listing. -/
def listedCount (sources : List SourceFile) : Nat :=
  (Compilation.declarations sources).countP fun d => declaresMember d && d.documentation.isSome

theorem listedCount_cons (file : SourceFile) (rest : List SourceFile) :
    listedCount (file :: rest) = (listedIn file).length + listedCount rest := by
  rw [listedCount, Compilation.declarations, List.flatMap_cons, List.countP_append, listedIn,
    SourceFile.documented, List.filter_filter, ← List.countP_eq_length_filter]
  rfl

section Acts

variable (index : Index)

/-- What a listing does for a declaration. -/
def memberActs (d : Declaration) : List Act :=
  (Compilation.member? index d).records.map Act.logs ++
    ((Compilation.member? index d).value.map fun member =>
      Act.prints (memberLine member d.line)).toList

/-- What a listing does for a file. -/
def fileActs (file : SourceFile) : List Act :=
  if file.documented.isEmpty then []
  else .prints file.path :: file.documented.flatMap (memberActs index)

theorem isSome_member? (d : Declaration) :
    (Compilation.member? index d).value.isSome = declaresMember d := by
  rw [Compilation.value_member?, declaresMember]
  by_cases space : d.kind = .namespaceKind <;> simp [space]

theorem listMembers_eq_perform (ds : List Declaration) (session : Session) (count : Nat) :
    listMembers index ds (session, count) =
      (session.perform (ds.flatMap (memberActs index)), count + ds.countP declaresMember) := by
  induction ds generalizing session count with
  | nil => rfl
  | cons d rest ih =>
    have counted := isSome_member? index d
    rw [listMembers, List.flatMap_cons, Session.perform_append, memberActs,
      Session.perform_append, ← Session.log_eq_perform, List.countP_cons, ← counted]
    cases (Compilation.member? index d).value with
    | none =>
      dsimp only
      rw [ih]
      rfl
    | some member =>
      dsimp only
      rw [ih, Nat.add_assoc, Nat.add_comm 1]
      rfl

theorem listFiles_eq_perform (files : List SourceFile) (session : Session) (count : Nat) :
    listFiles index files (session, count) =
      (session.perform (files.flatMap (fileActs index)), count + listedCount files) := by
  induction files generalizing session count with
  | nil => rfl
  | cons file rest ih =>
    rw [listFiles, List.flatMap_cons, Session.perform_append, fileActs, listedCount_cons, listedIn,
      ← List.countP_eq_length_filter]
    by_cases bare : file.documented.isEmpty = true
    · rw [if_pos bare, if_pos bare, ih, List.isEmpty_iff.1 bare, List.countP_nil, Nat.zero_add]
      rfl
    · rw [if_neg bare, if_neg bare, listMembers_eq_perform, ih, Nat.add_assoc]
      rfl

theorem printed_memberActs (d : Declaration) :
    printed (memberActs index d) = if declaresMember d then [entryLine d] else [] := by
  rw [memberActs, printed_append, printed_logs, List.nil_append, Compilation.value_member?,
    declaresMember]
  by_cases space : d.kind = .namespaceKind
  · simp [space, printed]
  · rw [if_neg space, if_pos (bne_iff_ne.2 space)]
    rfl

theorem printed_fileActs (file : SourceFile) :
    printed (fileActs index file) = fileListing file := by
  unfold fileActs fileListing listedIn
  split
  · rfl
  · rw [printed_prints, printed_flatMap]
    congr 1
    induction file.documented with
    | nil => rfl
    | cons d rest ih =>
      rw [List.flatMap_cons, ih, printed_memberActs]
      cases member : declaresMember d <;> simp [member]

end Acts

/-- What a listing of source files does, once they are read. -/
def listingActs (sources : List SourceFile) : List Act :=
  (Compilation.build sources).records.map Act.logs ++
    sources.flatMap (fileActs (Index.ofFiles sources)) ++
    [.prints [], .prints (totalLine (listedCount sources))]

theorem printed_listingActs (sources : List SourceFile) :
    printed (listingActs sources) =
      sources.flatMap fileListing ++ [[], totalLine (listedCount sources)] := by
  rw [listingActs, printed_append, printed_append, printed_logs, List.nil_append, printed_flatMap]
  simp only [printed_fileActs]
  rfl

/-- A listing that does not fail has read all source files, and lists those that are text. -/
theorem members_of_success {settings : Settings} {root : Text} {session : Session}
    (listed : (members settings root session).exitCode = 0) :
    ∃ files, Files.collect session.files root settings.selection = .ok files ∧
      (members settings root session).session =
        session.perform ((Report.readSources session.files files).records.map Act.logs ++
          listingActs (files.filterMap (sourceAt? session.files))) := by
  unfold members at listed ⊢
  cases collected : Files.collect session.files root settings.selection with
  | error failure => rw [collected] at listed; cases listed
  | ok files =>
    rw [collected] at listed
    refine ⟨files, rfl, ?_⟩
    dsimp only at listed ⊢
    cases read : (Report.readSources session.files files).value with
    | error failure => rw [read] at listed; cases listed
    | ok sources =>
      have texts := readSources_eq_ok read
      subst texts
      dsimp only
      rw [listFiles_eq_perform, Session.perform_append, listingActs, Session.perform_append,
        Session.perform_append, ← Session.log_eq_perform, ← Session.log_eq_perform, Nat.zero_add]
      rfl

end CommandLine

end DocReport
