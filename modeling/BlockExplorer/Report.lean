import BlockExplorer.Failure

/-!
The report of an error as a client sees it: a code, a message and perhaps details. A code is one of
the known ones or any other word, or there is none; only a known code has a status of its own.
-/

namespace BlockExplorer

inductive ReportCode where
  | known (code : ErrorCode)
  | other (word : Text)
  deriving DecidableEq, Repr

namespace ReportCode

def name : ReportCode → Text
  | .known code => Text.ofString code.name
  | .other word => word

def status : ReportCode → Nat
  | .known code => code.status
  | .other _ => 500

/-- The status of a raised error with this code. Here a word that spells a known code will do. -/
def statusByName (code : ReportCode) : Nat :=
  ((ErrorCode.ofName? code.name).map ErrorCode.status).getD 500

end ReportCode

structure Report where
  code : Option ReportCode
  message : Text
  details : Value
  deriving Repr

namespace Report

/-- The report of an error of a family, with the code of the family unless there is another one. -/
def raised (family : Boundary) (message : Text) (code : Option ReportCode) : Report :=
  ⟨some (code.getD (.known family.code)), message, .null⟩

def ofError (error : BoundaryFault) : Report := ⟨some (.known error.code), error.message, .null⟩

def status (report : Report) : Nat := (report.code.map ReportCode.status).getD 500

def statusByName (report : Report) : Nat := (report.code.map ReportCode.statusByName).getD 500

def codeValue (report : Report) : Value :=
  Value.ofOption (fun code => .text code.name) report.code

/-- The body of the response. Details that count as absent are left out. -/
def toValue (report : Report) : Value :=
  .named
    [("error", .named
      ([("code", report.codeValue), ("message", .text report.message)] ++
        if report.details.isFalsy then [] else [("details", report.details)]))]

end Report

end BlockExplorer
