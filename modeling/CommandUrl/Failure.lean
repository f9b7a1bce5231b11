/-!
# Failures

Everything that can go wrong with a command or with the settings. A failure is
its cause; its code, its kind and its wording are functions of the cause. The
kind says how far the command got: a structural failure refuses it as a whole,
the other three concern one parameter, one look-up, or the last step.
-/

namespace CommandUrl

/-- How far a command got before it failed. -/
inductive FailureKind where
  /-- The text is no command. -/
  | structural
  /-- A parameter is not one of the command's, or has a value it cannot take. -/
  | parameter
  /-- What a parameter names could not be found or used. -/
  | resolution
  /-- The result could not be stored. -/
  | commit
  deriving Repr, DecidableEq

/-- The word for a kind. -/
def FailureKind.name : FailureKind → String
  | .structural => "structural"
  | .parameter => "parameter"
  | .resolution => "resolution"
  | .commit => "commit"

/-- The causes of failure. -/
inductive Failure where
  | malformedUrl (raw : String)
  | missingScheme (raw : String)
  | wrongScheme (scheme : String)
  | missingCommand (raw : String)
  | unknownCommand (name : String)
  | unrecognizedParameter (verb label : String)
  | invalidParameterValue (verb label value : String)
  | missingContext (label : String)
  | collectionNotFound (description : String)
  | noteNotFound (description : String)
  | fieldSetFailed (label : String)
  | scriptPathInvalid (description : String)
  | fileRevealFailed (path : String)
  | noteCommitFailed (description : String)
  | io (description : String)
  | internal (description : String)
  deriving Repr, DecidableEq

namespace Failure

/-- The name by which a cause is reported. -/
def code : Failure → String
  | malformedUrl _ => "MALFORMED_URL"
  | missingScheme _ => "MISSING_SCHEME"
  | wrongScheme _ => "WRONG_SCHEME"
  | missingCommand _ => "MISSING_COMMAND"
  | unknownCommand _ => "UNKNOWN_COMMAND"
  | unrecognizedParameter .. => "UNRECOGNIZED_PARAMETER"
  | invalidParameterValue .. => "INVALID_PARAMETER_VALUE"
  | missingContext _ => "MISSING_CONTEXT"
  | collectionNotFound _ => "COLLECTION_NOT_FOUND"
  | noteNotFound _ => "NOTE_NOT_FOUND"
  | fieldSetFailed _ => "FIELD_SET_FAILED"
  | scriptPathInvalid _ => "SCRIPT_PATH_INVALID"
  | fileRevealFailed _ => "FILE_REVEAL_FAILED"
  | noteCommitFailed _ => "NOTE_COMMIT_FAILED"
  | io _ => "IO_FAILURE"
  | internal _ => "INTERNAL"

/-- How far the command got. -/
def kind : Failure → FailureKind
  | malformedUrl _ | missingScheme _ | wrongScheme _ | missingCommand _ | unknownCommand _ =>
    .structural
  | unrecognizedParameter .. | invalidParameterValue .. | missingContext _ => .parameter
  | collectionNotFound _ | noteNotFound _ | fieldSetFailed _ | scriptPathInvalid _
  | fileRevealFailed _ | io _ | internal _ => .resolution
  | noteCommitFailed _ => .commit

/-- The wording of a failure. -/
def message : Failure → String
  | malformedUrl raw => "MALFORMED_URL: could not fashion a URL from this string: " ++ raw
  | missingScheme raw => "MISSING_SCHEME: could not extract a scheme from this URL: " ++ raw
  | wrongScheme scheme => "WRONG_SCHEME: invalid scheme detected: " ++ scheme
  | missingCommand raw => "MISSING_COMMAND: could not extract a command from this URL: " ++ raw
  | unknownCommand name => "UNKNOWN_COMMAND: invalid command: " ++ name
  | unrecognizedParameter verb label =>
    "UNRECOGNIZED_PARAMETER: " ++ verb ++ " query parameter of '" ++ label ++ "' not recognized"
  | invalidParameterValue verb label value =>
    "INVALID_PARAMETER_VALUE: '" ++ value ++ "' is not a valid value for the " ++ verb ++ " " ++
      label ++ " parameter"
  | missingContext label =>
    "MISSING_CONTEXT: '" ++ label ++ "' needs a collection, but none has been opened yet"
  | collectionNotFound description => "COLLECTION_NOT_FOUND: " ++ description
  | noteNotFound description => "NOTE_NOT_FOUND: " ++ description
  | fieldSetFailed label =>
    "FIELD_SET_FAILED: add query parameter of '" ++ label ++ "' not recognized"
  | scriptPathInvalid description => "SCRIPT_PATH_INVALID: " ++ description
  | fileRevealFailed path =>
    "FILE_REVEAL_FAILED: item to be opened at " ++ path ++
      " could not be used, possibly due to expired permissions"
  | noteCommitFailed description => "NOTE_COMMIT_FAILED: " ++ description
  | io description => "IO_FAILURE: " ++ description
  | internal description => "INTERNAL: " ++ description

end Failure

end CommandUrl
