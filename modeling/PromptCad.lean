import PromptCad.CommandLine.Memory
import PromptCad.Main
import PromptCad.Session.Shared
import PromptCad.Proofs.CommandLine.Split
import PromptCad.Proofs.Float.Bits
import PromptCad.Proofs.Float.Nearest
import PromptCad.Proofs.Float.Order
import PromptCad.Proofs.Float.Text
import PromptCad.Proofs.Model.Changes
import PromptCad.Proofs.Model.Json
import PromptCad.Proofs.Mesh.Cylinder
import PromptCad.Proofs.Prompt.Evaluation
import PromptCad.Proofs.Prompt.Sentence
import PromptCad.Proofs.Reader.Run
import PromptCad.Proofs.Session.Renumbered
import PromptCad.Proofs.Session.Save
import PromptCad.Proofs.Session.Finite
import PromptCad.Proofs.Session.Issued
import PromptCad.Proofs.Session.Shared
import PromptCad.Proofs.Stl.Zero
import PromptCad.Proofs.Prompt.Measured
import PromptCad.Proofs.Prompt.Verbs
import PromptCad.Proofs.Mesh.Sphere
import PromptCad.Proofs.Model.Faults
import PromptCad.Proofs.Mesh.Append
import PromptCad.Proofs.Mesh.Box
import PromptCad.Proofs.Mesh.Bounds
import PromptCad.Proofs.Session.Ids
import PromptCad.Proofs.Mesh.Volume
import PromptCad.Proofs.Stl.Unit
import PromptCad.Proofs.Prompt.Normal
