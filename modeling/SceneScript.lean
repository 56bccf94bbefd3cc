import SceneScript.Main
import SceneScript.Script.Edit
import SceneScript.Proofs.Verification
import SceneScript.Proofs.Settling
import SceneScript.Proofs.Attempts
import SceneScript.Proofs.Undoing
import SceneScript.Proofs.Histories
import SceneScript.Proofs.Renumbering
import SceneScript.Proofs.Truncation
import SceneScript.Proofs.Progress
import SceneScript.Proofs.Encodable
import SceneScript.Proofs.Building
import SceneScript.Proofs.Charwise
import SceneScript.Proofs.Capacity
import SceneScript.Proofs.Editing
import SceneScript.Proofs.Creating
import SceneScript.Proofs.Comparing
import SceneScript.Proofs.Dumping
import SceneScript.Proofs.Widths
