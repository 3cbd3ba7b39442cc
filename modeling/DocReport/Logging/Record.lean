import DocReport.Text.Basic

/-!
Log records, and computations that leave some behind. A record names the part of the program that
made it; nothing is printed here.
-/
namespace DocReport

/-- Severities as numbers, so that unnamed ones in between exist too. -/
abbrev Level := Nat

namespace Level

def debug : Level := 10
def info : Level := 20
def warning : Level := 30
def error : Level := 40
def critical : Level := 50

/-- The word for a level in log lines. -/
def word (level : Level) : Text :=
  match level with
  | 0 => "NOTSET".toList
  | 10 => "DEBUG".toList
  | 20 => "INFO".toList
  | 30 => "WARNING".toList
  | 40 => "ERROR".toList
  | 50 => "CRITICAL".toList
  | n => "Level ".toList ++ Text.ofNat n

end Level

/-- The parts of the program that log, all below one logger. -/
inductive Origin where
  | program | source | symbols | sections | report | settings | commands
  | other (name : Text)
  deriving DecidableEq, Repr

/-- The logger name of a part, as log lines show it. -/
def Origin.name : Origin → Text
  | .program => "xmldoc_md".toList
  | .source => "xmldoc_md.parsers.csharp_parser".toList
  | .symbols => "xmldoc_md.parsers.semantic".toList
  | .sections => "xmldoc_md.generators.member_doc".toList
  | .report => "xmldoc_md.output.markdown".toList
  | .settings => "xmldoc_md.utils.config".toList
  | .commands => "xmldoc_md.cli.commands".toList
  | .other name => name

/-- One logged message. -/
structure Record where
  level : Level
  origin : Origin
  message : Text
  deriving DecidableEq, Repr

/-- A value together with the records logged on the way to it, oldest first. -/
structure Logged (α : Type) where
  value : α
  records : List Record := []

namespace Logged

variable {α β : Type}

protected def pure (a : α) : Logged α :=
  ⟨a, []⟩

protected def bind (x : Logged α) (f : α → Logged β) : Logged β :=
  ⟨(f x.value).value, x.records ++ (f x.value).records⟩

instance : Monad Logged where
  pure := Logged.pure
  bind := Logged.bind

instance : LawfulMonad Logged :=
  LawfulMonad.mk' Logged
    (fun x => by
      change (⟨x.value, x.records ++ []⟩ : Logged _) = x
      rw [List.append_nil])
    (fun _ _ => rfl)
    (fun x f g => by
      change (⟨_, (x.records ++ _) ++ _⟩ : Logged _) = ⟨_, x.records ++ (_ ++ _)⟩
      rw [List.append_assoc]
      rfl)

@[simp] theorem value_pure (a : α) : (pure a : Logged α).value = a := rfl

@[simp] theorem records_pure (a : α) : (pure a : Logged α).records = [] := rfl

@[simp] theorem value_bind (x : Logged α) (f : α → Logged β) :
    (x >>= f).value = (f x.value).value := rfl

@[simp] theorem records_bind (x : Logged α) (f : α → Logged β) :
    (x >>= f).records = x.records ++ (f x.value).records := rfl

/-- Logs one message. -/
def say (level : Level) (origin : Origin) (message : Text) : Logged Unit :=
  ⟨(), [⟨level, origin, message⟩]⟩

end Logged

end DocReport
