import CameraSetup.Board
import CameraSetup.BootConfig
import CameraSetup.CommandEnd
import CameraSetup.Commit
import CameraSetup.Connector
import CameraSetup.Descriptor
import CameraSetup.DeviceTree.OverlayIdentity
import CameraSetup.DeviceTree.Token
import CameraSetup.FileTree.Path
import CameraSetup.FileTree.Replacement
import CameraSetup.FileTree.Tree
import CameraSetup.Invocation
import CameraSetup.Json.Token
import CameraSetup.Json.Value
import CameraSetup.KeyPress
import CameraSetup.KeyPress.Typed
import CameraSetup.Main
import CameraSetup.Menu.Paged
import CameraSetup.ModuleArguments
import CameraSetup.Options
import CameraSetup.Overlay.Checked
import CameraSetup.Overlay.Name
import CameraSetup.OverlayScan
import CameraSetup.Port
import CameraSetup.Readiness
import CameraSetup.Reboot
import CameraSetup.Screen.ControlSequence
import CameraSetup.Screen.Glyph
import CameraSetup.Screen.Layout
import CameraSetup.Screen.Picture
import CameraSetup.Screen.Wrapped
import CameraSetup.Selection
import CameraSetup.Session
import CameraSetup.Settings.Basic
import CameraSetup.Settings.File
import CameraSetup.SetupError
import CameraSetup.SortedMap
import CameraSetup.Text.Blank
import CameraSetup.Text.CharClass
import CameraSetup.Text.Cluster
import CameraSetup.Text.Cluster.Table
import CameraSetup.Text.Columns
import CameraSetup.Text.Columns.Table
import CameraSetup.Text.Cut
import CameraSetup.Text.LowerCase
import CameraSetup.Text.LowerCase.Table
import CameraSetup.Text.Quoted
import CameraSetup.Text.Quoted.Table
import CameraSetup.Text.Utf8
import CameraSetup.Topology
import CameraSetup.Unattended
import CameraSetup.Wizard.State
import CameraSetup.Wizard.Step
import CameraSetup.Wizard.View
import CameraSetup.Proofs.BootConfig.AnyOrder
import CameraSetup.Proofs.BootConfig.Comments
import CameraSetup.Proofs.BootConfig.Entry
import CameraSetup.Proofs.BootConfig.Exact
import CameraSetup.Proofs.BootConfig.Keyword
import CameraSetup.Proofs.BootConfig.LastList
import CameraSetup.Proofs.BootConfig.LineEnds
import CameraSetup.Proofs.BootConfig.Listing
import CameraSetup.Proofs.BootConfig.RoundTrip
import CameraSetup.Proofs.BootConfig.Sections
import CameraSetup.Proofs.BootConfig.Steps
import CameraSetup.Proofs.Commit.Agreement
import CameraSetup.Proofs.Commit.Atomicity
import CameraSetup.Proofs.Descriptor
import CameraSetup.Proofs.Descriptor.Grammar
import CameraSetup.Proofs.Descriptor.Written
import CameraSetup.Proofs.DeviceTree.Acceptance
import CameraSetup.Proofs.DeviceTree.Bounds
import CameraSetup.Proofs.DeviceTree.Flattened
import CameraSetup.Proofs.DeviceTree.Nesting
import CameraSetup.Proofs.DeviceTree.Reading
import CameraSetup.Proofs.DeviceTree.RoundTrip
import CameraSetup.Proofs.DeviceTree.Traced
import CameraSetup.Proofs.DeviceTree.Trailing
import CameraSetup.Proofs.Except
import CameraSetup.Proofs.FileTree.Alike
import CameraSetup.Proofs.FileTree.Path
import CameraSetup.Proofs.FileTree.Replacement
import CameraSetup.Proofs.FileTree.Walk
import CameraSetup.Proofs.FrontEnds
import CameraSetup.Proofs.Invocation
import CameraSetup.Proofs.Json.RoundTrip
import CameraSetup.Proofs.Json.Token
import CameraSetup.Proofs.Menu.Cycle
import CameraSetup.Proofs.Menu.Layout
import CameraSetup.Proofs.Menu.Movement
import CameraSetup.Proofs.Menu.Pages
import CameraSetup.Proofs.ModuleArguments
import CameraSetup.Proofs.ModuleArguments.AnyOrder
import CameraSetup.Proofs.ModuleArguments.Grammar
import CameraSetup.Proofs.ModuleArguments.Written
import CameraSetup.Proofs.Options
import CameraSetup.Proofs.Overlay.Check
import CameraSetup.Proofs.Overlay.Distinct
import CameraSetup.Proofs.Overlay.Faithful
import CameraSetup.Proofs.Overlay.FileName
import CameraSetup.Proofs.Overlay.ForeignFiles
import CameraSetup.Proofs.Overlay.Grouping
import CameraSetup.Proofs.Overlay.WholePorts
import CameraSetup.Proofs.PortSpelling
import CameraSetup.Proofs.Screen.Rows
import CameraSetup.Proofs.Session.Display
import CameraSetup.Proofs.Session.Effects
import CameraSetup.Proofs.Session.OnScreen
import CameraSetup.Proofs.Session.Turns
import CameraSetup.Proofs.Settings.Fields
import CameraSetup.Proofs.Settings.RoundTrip
import CameraSetup.Proofs.SortedMap
import CameraSetup.Proofs.Text.Digits
import CameraSetup.Proofs.Text.Fields
import CameraSetup.Proofs.Text.Lines
import CameraSetup.Proofs.Text.Plain
import CameraSetup.Proofs.Text.Trimmed
import CameraSetup.Proofs.Topology.Content
import CameraSetup.Proofs.Topology.Facts
import CameraSetup.Proofs.Topology.Listing
import CameraSetup.Proofs.Topology.Offered
import CameraSetup.Proofs.Topology.Passes
import CameraSetup.Proofs.Wizard.Acceptance
import CameraSetup.Proofs.Wizard.Activation
import CameraSetup.Proofs.Wizard.Completeness
import CameraSetup.Proofs.Wizard.Crowded
import CameraSetup.Proofs.Wizard.Drawn
import CameraSetup.Proofs.Wizard.Highlight
import CameraSetup.Proofs.Wizard.Invariant
import CameraSetup.Proofs.Wizard.Labels
import CameraSetup.Proofs.Wizard.Pending
import CameraSetup.Proofs.Wizard.Reach
import CameraSetup.Proofs.Wizard.Returns
import CameraSetup.Proofs.Wizard.Shown
import CameraSetup.Proofs.Wizard.Typing
