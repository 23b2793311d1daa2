import LanguageHost.Files.Tree
import LanguageHost.Settings.Decode
import LanguageHost.Toml.Lexeme

namespace LanguageHost

inductive LoadCause where
  | unreadable (file : FilePath) (fault : FileFault)
  | malformed (file : FilePath) (reason : Toml.SyntaxError)
  | cycle (chain : List FilePath)

def LoadCause.message : LoadCause → String
  | unreadable file fault => file.text ++ ": " ++ fault.message
  | malformed file reason => file.text ++ ": " ++ reason.message
  | cycle chain => "cyclic extends: " ++ String.intercalate " -> " (chain.map FilePath.text)

inductive LayerProblem where
  | notToml (reason : Toml.SyntaxError)
  | shape (e : DecodeError)

def LayerProblem.message : LayerProblem → String
  | notToml reason => reason.message
  | shape e => e.problem.message

inductive SettingsError where
  | load (path : FilePath) (cause : LoadCause)
  | parse (path : FilePath) (problem : LayerProblem)
  | merge (section_ : String) (e : DecodeError)
  | aggregate (errors : List SettingsError)

namespace SettingsError

mutual

def message : SettingsError → String
  | load path cause => "failed to load configuration file '" ++ path.text ++ "': " ++ cause.message
  | parse path problem =>
    "failed to parse configuration file '" ++ path.text ++ "': " ++ problem.message
  | merge section_ e =>
    "invalid merged settings for '" ++ section_ ++ "': " ++ e.problem.message
  | aggregate errors => "multiple configuration errors:" ++ itemLines errors

def itemLines : List SettingsError → String
  | [] => ""
  | e :: rest => "\n  - " ++ message e ++ itemLines rest

end

def collect? : List SettingsError → Option SettingsError
  | [] => none
  | [e] => some e
  | errors => some (aggregate errors)

def path? : SettingsError → Option FilePath
  | load path _ => some path
  | parse path _ => some path
  | merge .. => none
  | aggregate _ => none

end SettingsError

end LanguageHost
