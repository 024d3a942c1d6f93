import ScriptManual.Arguments.Operation
import ScriptManual.Arguments.Parse
import ScriptManual.Cli.Run
import ScriptManual.Host.FileTree
import ScriptManual.Main
import ScriptManual.Proofs.Arguments.Arity
import ScriptManual.Proofs.Arguments.History
import ScriptManual.Proofs.Arguments.Normal
import ScriptManual.Proofs.Arguments.Order
import ScriptManual.Proofs.Arguments.Spelling
import ScriptManual.Proofs.Arguments.Turns
import ScriptManual.Proofs.Cli.Refusal
import ScriptManual.Proofs.Document.Fence
import ScriptManual.Proofs.Document.Html
import ScriptManual.Proofs.Document.Prose
import ScriptManual.Proofs.Getopt.Declaration
import ScriptManual.Proofs.Log.Entry
import ScriptManual.Proofs.Manual.Layout
import ScriptManual.Proofs.Manual.Noise
import ScriptManual.Proofs.Manual.Physical
import ScriptManual.Proofs.Manual.Scan
import ScriptManual.Proofs.Path.ProgramRoot
import ScriptManual.Proofs.Shell.Document
import ScriptManual.Proofs.Shell.Listing
import ScriptManual.Proofs.Shell.Simulation
