import ToolpathViewer.Text.Letter
import ToolpathViewer.Text.Printable
import ToolpathViewer.Text.Digit
import ToolpathViewer.Text.Blank
import ToolpathViewer.Text.UpperCase
import ToolpathViewer.Text.Utf8
import ToolpathViewer.Text.Quoted
import ToolpathViewer.Decimal.Shortest
import ToolpathViewer.Decimal.Numeral
import ToolpathViewer.Json.Display
import ToolpathViewer.Json.Parser
import ToolpathViewer.Log
import ToolpathViewer.Token.Lexer
import ToolpathViewer.Code
import ToolpathViewer.Geometry.Arc
import ToolpathViewer.Geometry.Ray
import ToolpathViewer.Toolpath.Extraction
import ToolpathViewer.Scene.Picking
import ToolpathViewer.Scene.Framing
import ToolpathViewer.Gate
import ToolpathViewer.Bridge.Client
import ToolpathViewer.Message
import ToolpathViewer.Config.Stored
import ToolpathViewer.Log.Setup
import ToolpathViewer.Log.Console
import ToolpathViewer.Session.Link
import ToolpathViewer.Editor.Basic
import ToolpathViewer.Viewport.Painting
import ToolpathViewer.Viewport.Pointer
import ToolpathViewer.Window.Workspace
import ToolpathViewer.Main
import ToolpathViewer.Bridge.Server
import ToolpathViewer.Proofs.Bridge.Delivery
import ToolpathViewer.Proofs.Scene.Consistency
import ToolpathViewer.Proofs.Session.Sync
import ToolpathViewer.Proofs.Toolpath.Limit
import ToolpathViewer.Proofs.Toolpath.Returns
import ToolpathViewer.Proofs.Toolpath.Seam
import ToolpathViewer.Proofs.Editor.Comments
import ToolpathViewer.Proofs.Toolpath.Exclusion
import ToolpathViewer.Proofs.Gate
import ToolpathViewer.Proofs.Session.Transcript
import ToolpathViewer.Proofs.Session.Pointing
import ToolpathViewer.Proofs.Session.Wire
import ToolpathViewer.Proofs.Bridge.Access
import ToolpathViewer.Proofs.Window.Feedback
import ToolpathViewer.Proofs.Toolpath.Turning
import ToolpathViewer.Proofs.Bridge.Stopping
import ToolpathViewer.Proofs.Window.Isolation
import ToolpathViewer.Proofs.Window.Posting
import ToolpathViewer.Proofs.Toolpath.Spelling
import ToolpathViewer.Proofs.Toolpath.Destination
import ToolpathViewer.Proofs.Toolpath.Resolution
import ToolpathViewer.Proofs.Session.Announcing
import ToolpathViewer.Proofs.Window.Following
import ToolpathViewer.Proofs.Window.Diagnosing
import ToolpathViewer.Proofs.Scene.Failing
import ToolpathViewer.Proofs.Toolpath.Reordering
import ToolpathViewer.Proofs.Toolpath.Omitting
import ToolpathViewer.Proofs.Toolpath.Reporting
import ToolpathViewer.Proofs.Scene.Hitting
import ToolpathViewer.Proofs.Geometry.Nearest
import ToolpathViewer.Proofs.Geometry.Sweep
import ToolpathViewer.Proofs.Geometry.Chords
import ToolpathViewer.Proofs.Bridge.Draining
import ToolpathViewer.Proofs.Bridge.Looping
import ToolpathViewer.Proofs.Token.Restarting
import ToolpathViewer.Proofs.Session.Dropping
import ToolpathViewer.Proofs.Config.Saving
import ToolpathViewer.Proofs.Code.Matching
