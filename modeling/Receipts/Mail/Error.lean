import Receipts.Http.Exchange
import Receipts.Json.Fault

/-!
# What can go wrong with mail

A mail may be incomplete or wrongly addressed, which is the fault of whoever
asked for it. Everything else is a fault of delivery: the settings, the files,
the exchange with the provider, or the provider's own refusal, whose words are
passed on unchanged.
-/

namespace Receipts.Mail

/-- What is missing in a mail. -/
inductive Defect where
  | missingFields (names : List String)
  | recipient
  | sender
  | subject
  | body
  | stated (reason : String)
  deriving DecidableEq, Repr

/-- A defect in words. -/
def Defect.message : Defect → String
  | missingFields names => "Missing required fields: " ++ ", ".intercalate names
  | recipient => "Every recipient needs an address"
  | sender => "From address is required"
  | subject => "Subject is required"
  | body => "HTML body is required"
  | stated reason => reason

/-- Why a text is no address. -/
inductive AddressDefect where
  | unreadable
  | user
  | domain
  deriving DecidableEq, Repr

/-- The defect of an address in words. -/
def AddressDefect.message : AddressDefect → String
  | unreadable => "Invalid input"
  | user => "Invalid email user"
  | domain => "Invalid email domain"

/-- What is wrong with the settings of a mailer. -/
inductive SettingDefect where
  | emptyKeyVariable
  | emptyKey
  | stated (reason : String)
  deriving DecidableEq, Repr

/-- The defect of a setting in words. -/
def SettingDefect.message : SettingDefect → String
  | emptyKeyVariable => "RECEIPT_MAILER_API_KEY is set but empty"
  | emptyKey => "Email API key is empty"
  | stated reason => reason

/-- What the file system answers. -/
inductive StorageDefect where
  | notADirectory
  | alreadyThere
  | nameTooLong
  | zeroByte
  | stated (reason : String)
  deriving DecidableEq, Repr

/-- The answer of the file system in words. -/
def StorageDefect.message : StorageDefect → String
  | notADirectory => "Not a directory (os error 20)"
  | alreadyThere => "File exists (os error 17)"
  | nameTooLong => "File name too long (os error 36)"
  | zeroByte => "file name contained an unexpected NUL byte"
  | stated reason => reason

end Receipts.Mail

namespace Receipts

/-- An error of sending mail. -/
inductive MailError where
  | refused (status : Nat) (words : String)
  | exchange (failure : Http.Failure)
  | address (defect : Mail.AddressDefect)
  | incomplete (defect : Mail.Defect)
  | unreadable (fault : Json.Fault)
  | unwritten (defect : Mail.StorageDefect)
  | setting (defect : Mail.SettingDefect)
  | storage (defect : Mail.StorageDefect)
  deriving DecidableEq, Repr

namespace MailError

/-- The error in words. -/
def message : MailError → String
  | refused _ words => words
  | exchange failure => failure.message
  | address defect => "Email address error: " ++ defect.message
  | incomplete defect => defect.message
  | unreadable fault => "Serialization error: " ++ fault.message
  | unwritten defect => "File transport error: response error: " ++ defect.message
  | setting defect => "Configuration error: " ++ defect.message
  | storage defect => "IO error: " ++ defect.message

/-- Whether the request itself is at fault. -/
def isInvalidRequest : MailError → Bool
  | address _ | incomplete _ => true
  | _ => false

end MailError

end Receipts
