import Highlighting.FileTree
import Highlighting.Libraries

/-! What can go wrong before anything is highlighted, and how it is reported. Why a pattern or a rule
file is refused is told in the words of the library that refuses it. -/
namespace Highlighting

inductive Problem where
  | unreadable (cause : FileError)
  | invalidPattern (source : Text)
  | malformedRules (source : Text)
  | namelessLanguage
  | unknownLanguage (name : Text)
  | unknownFormat (name : Text)
  | within (path : Text) (inner : Problem)
  | unknownOption (option : Text)
  | missingValue (option : Text)
  | secondFile
  deriving Repr

namespace Problem

def message [Libraries] : Problem → Text
  | unreadable cause => "I/O error: ".toList ++ cause.message
  | invalidPattern source =>
    "Invalid pattern `".toList ++ source ++ "`: ".toList ++ Libraries.patternCause source
  | malformedRules source => "Malformed rule file: ".toList ++ Libraries.rulesCause source
  | namelessLanguage => "Bad language definition: `name` must not be empty".toList
  | unknownLanguage name => "No such language: ".toList ++ name
  | unknownFormat name => "Unknown output format: ".toList ++ name
  | within path inner => path ++ ": ".toList ++ inner.message
  | unknownOption option => "unknown option: ".toList ++ option
  | missingValue option => option ++ " requires a value".toList
  | secondFile => "only one input file may be given".toList

end Problem

end Highlighting
