namespace DiffReach

inductive Fault where
  | notNumeral
  | tooManyDigits
  | tooDeep
  | notANumber
  | unbounded
  | outOfRange
  | notNumeric
  | unknownName
  | notSliceable
  | notObject
  | notText
  | wrongArguments
  | unknownCall
  | notTable
  | notEntries
  | notPairs
  | beyondEnd
  | unread
  | notAscii
  | notUtf8
  | unencodable
  | isDirectory
  | notDirectory
  | notFound
  | badPath
  | badMarkup
  deriving DecidableEq

/-- Whether a fault only says that a value has no number of the kind that is due. -/
def Fault.isUnreadable : Fault → Bool
  | .notNumeral | .tooManyDigits | .notANumber | .notNumeric => true
  | _ => false

end DiffReach
