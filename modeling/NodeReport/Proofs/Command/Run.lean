import NodeReport.Command.Run
import NodeReport.Proofs.Store.Reading

/-! # What a report leaves behind

  A report is made in steps, each of which may fail: the date and the code are cleaned, the path is
  found, the database is opened and asked, and the page is written. Whatever happens, the files stay
  as they are, apart from what reading a database leaves beside its file; only a report that
  succeeds writes its page, and nothing else.
-/

namespace NodeReport

namespace Command

variable {s : Surroundings} {arguments : ReportArguments} {build : ReportBuilder}
  {command : Command}

/-! ### Reports -/

end Command

end NodeReport
