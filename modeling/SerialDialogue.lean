import SerialDialogue.Device.Rules
import SerialDialogue.Main
import SerialDialogue.Proofs.Engine.Chronicle
import SerialDialogue.Proofs.Dialogue
import SerialDialogue.Proofs.Session.Cap
import SerialDialogue.Proofs.Session.Shadow
import SerialDialogue.Proofs.Rehearsal
import SerialDialogue.Proofs.Engine.Reception
import SerialDialogue.Proofs.Engine.Watching
import SerialDialogue.Proofs.Engine.Monitoring
import SerialDialogue.Proofs.Engine.Outlasting
import SerialDialogue.Proofs.Engine.Patience
import SerialDialogue.Proofs.Book.Selection
import SerialDialogue.Proofs.LineByLine
import SerialDialogue.Proofs.Session.LetterCase
import SerialDialogue.Proofs.Bookkeeping
import SerialDialogue.Proofs.Duration.RoundTrip
import SerialDialogue.Proofs.Script.Rendering
import SerialDialogue.Proofs.Delimited
import SerialDialogue.Proofs.Session.Buffers
