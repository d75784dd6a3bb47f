import Credential.Json.Value

/-!
# Errors

Everything that can go wrong, the text that reports it, and what a caller outside
is told about it.
-/

namespace Credential

/-- The causes of a failed operation. -/
inductive Error where
  /-- The name is missing or its length is out of bounds. -/
  | invalidName
  /-- The email is missing, too long or not shaped like an address. -/
  | invalidEmail
  /-- The length of the password is out of bounds. -/
  | invalidPassword
  /-- The candidate is not the password that was hashed. -/
  | passwordMismatch
  | accountNotFound
  | emailNotFound
  | keyNotFound
  | tokenNotFound
  /-- Another live account has the email. -/
  | duplicateEmail
  /-- The account already has a key pair. -/
  | keyAlreadyExists
  /-- A required argument is empty. -/
  | nilArgument (argument : String)
  | nilStore
  | alreadyRegistered (provider : String)
  | notRegistered (provider : String)
  /-- The store has not been dialed, or has been closed. -/
  | notConnected
  /-- The token is not signed with RSA. -/
  | wrongSigningMethod
  /-- The token cannot be read. -/
  | malformed
  /-- The token has expired or is not valid yet. -/
  | expired
  | unauthorized
  | keyGeneration (reason : String)
  | signingFailed (reason : String)
  | passwordHash (reason : String)
  | encoding (reason : String)
  /-- The configuration is bad or incomplete. -/
  | config (reason : String)
  | database (reason : String)
  | io (reason : String)
  | internal (reason : String)
  deriving Repr, DecidableEq

namespace Error

/-- The text that reports an error. -/
def message : Error → String
  | .invalidName => "invalid name"
  | .invalidEmail => "invalid email address"
  | .invalidPassword => "invalid password"
  | .passwordMismatch => "password mismatch"
  | .accountNotFound => "account not found"
  | .emailNotFound => "email not found"
  | .keyNotFound => "key not found"
  | .tokenNotFound => "token not found"
  | .duplicateEmail => "email exists in store"
  | .keyAlreadyExists => "key exists in store"
  | .nilArgument argument => argument ++ " cannot be empty"
  | .nilStore => "store cannot be nil"
  | .alreadyRegistered provider => "provider " ++ provider ++ " already registered"
  | .notRegistered provider => "store " ++ provider ++ " not registered"
  | .notConnected => "store not connected"
  | .wrongSigningMethod => "unexpected signing method"
  | .malformed => "malformed token"
  | .expired => "token expired or not valid yet"
  | .unauthorized => "unauthorized"
  | .keyGeneration reason => "key generation failed: " ++ reason
  | .signingFailed reason => "token signing failed: " ++ reason
  | .passwordHash reason => "password hashing failed: " ++ reason
  | .encoding reason => "encoding error: " ++ reason
  | .config reason => "configuration error: " ++ reason
  | .database reason =>
      "Database error: encountered unexpected or invalid data: " ++ reason
  | .io reason => "IO error: " ++ reason
  | .internal reason => "Internal error: " ++ reason

/-- Whether something that was looked for is not there. -/
def isNotFound : Error → Bool
  | .accountNotFound => true
  | .emailNotFound => true
  | .keyNotFound => true
  | .tokenNotFound => true
  | _ => false

/-- Whether something to be added is there already. -/
def isConflict : Error → Bool
  | .duplicateEmail => true
  | .keyAlreadyExists => true
  | _ => false

/-- Whether callers outside are only told that they are not allowed. -/
def isSecurity : Error → Bool
  | .wrongSigningMethod => true
  | .malformed => true
  | .expired => true
  | .unauthorized => true
  | .passwordMismatch => true
  | _ => false

/-- Whether the caller sent something unacceptable. -/
def isInvalid : Error → Bool
  | .invalidName => true
  | .invalidEmail => true
  | .invalidPassword => true
  | .nilArgument _ => true
  | _ => false

/-- The word that stands for an error in an answer. -/
def code : Error → String
  | .invalidName => "InvalidName"
  | .invalidEmail => "InvalidEmail"
  | .invalidPassword => "InvalidPassword"
  | .nilArgument _ => "InvalidRequest"
  | .accountNotFound => "AccountNotFound"
  | .emailNotFound => "EmailNotFound"
  | .keyNotFound => "KeyNotFound"
  | .tokenNotFound => "TokenNotFound"
  | .duplicateEmail => "DuplicateEmail"
  | .keyAlreadyExists => "KeyAlreadyExists"
  | _ => "InternalServerError"

/-- What a caller outside is told. -/
structure Report where
  status : Nat
  code : String
  message : String
  deriving Repr, DecidableEq

/-- What a caller outside is told about an error; inner causes stay hidden. -/
def report (error : Error) : Report :=
  if error.isSecurity then
    ⟨403, "Forbidden", "forbidden"⟩
  else if error.isNotFound then
    ⟨404, error.code, error.message⟩
  else if error.isConflict then
    ⟨409, error.code, error.message⟩
  else if error.isInvalid then
    ⟨400, error.code, error.message⟩
  else
    ⟨500, "InternalServerError", "Internal server error"⟩

/-- The body of an answer that reports an error. -/
def Report.body (report : Report) : Json.Value :=
  .object
    [("status", .text "error"), ("error", .text report.code), ("message", .text report.message)]

end Error

end Credential
