import DocReport.Files.FileSystem

/-!
What can stop the program, and the words for it.
-/
namespace DocReport

/-- What a value from the settings is needed for when its type turns out to be wrong. -/
inductive Use where
  | entries | lowerCase | upperCase | items | membership | pathPart | pattern | fileName | level
  deriving DecidableEq, Repr

/-- The table of format styles as it is shown. No other value of a wrong type can come to be a
level. -/
def styleTable : Text :=
  "\x7b'%': (<class 'logging.PercentStyle'>, '%(levelname)s:%(name)s:%(message)s'), ".toList ++
  "'\x7b': (<class 'logging.StrFormatStyle'>, ".toList ++
  "'\x7blevelname\x7d:\x7bname\x7d:\x7bmessage\x7d'), ".toList ++
  "'$': (<class 'logging.StringTemplateStyle'>, ".toList ++
  "'$\x7blevelname\x7d:$\x7bname\x7d:$\x7bmessage\x7d')\x7d".toList

/-- The wording for a value of a type that is wrong for a use. -/
def Use.message (use : Use) (typeName : Text) : Text :=
  let lacking (ability : String) : Text :=
    '\'' :: typeName ++ "' object has no attribute '".toList ++ ability.toList ++ ['\'']
  match use with
  | .entries => lacking "get"
  | .lowerCase => lacking "lower"
  | .upperCase => lacking "upper"
  | .items => '\'' :: typeName ++ "' object is not iterable".toList
  | .membership => "unhashable type: '".toList ++ typeName ++ ['\'']
  | .pathPart =>
    "unsupported operand type(s) for /: 'PosixPath' and '".toList ++ typeName ++ ['\'']
  | .pattern => "expected string or bytes-like object, got '".toList ++ typeName ++ ['\'']
  | .fileName => "expected str, bytes or os.PathLike object, not ".toList ++ typeName
  | .level => "Level not an integer or a valid string: ".toList ++ styleTable

/-- What can stop the program. -/
inductive Failure where
  | access (fault : Files.AccessFault)
  | noSuchFile (path : Text)
  | undecodable (fault : Text.Utf8.Fault)
  | malformedSettings
  | noSuchValue (message : Text)
  | wrongType (use : Use) (typeName : Text)
  | unusableFormat (format : Text)
  | unknownLevel (name : Text)
  deriving DecidableEq, Repr

/-- A failure in words. Settings that cannot be read are only named as such. -/
def Failure.message : Failure → Text
  | .access fault => fault.message
  | .noSuchFile path => "File not found: ".toList ++ path
  | .undecodable fault => fault.message
  | .malformedSettings => []
  | .noSuchValue message => message
  | .wrongType use typeName => use.message typeName
  | .unusableFormat format => "Invalid format '".toList ++ format ++ "' for '%' style".toList
  | .unknownLevel name => "Unknown level: ".toList ++ Text.quoted name

end DocReport
