import StateMachine.Coded
import StateMachine.Script
import StateMachine.Session
import StateMachine.Proofs.BuildOrder
import StateMachine.Proofs.Causes
import StateMachine.Proofs.Composition
import StateMachine.Proofs.DeadSpots
import StateMachine.Proofs.Depth
import StateMachine.Proofs.Decoding
import StateMachine.Proofs.Delivery
import StateMachine.Proofs.EdgeOrder
import StateMachine.Proofs.Enumeration
import StateMachine.Proofs.EventLog
import StateMachine.Proofs.Extension
import StateMachine.Proofs.Handling
import StateMachine.Proofs.Labels
import StateMachine.Proofs.Prediction
import StateMachine.Proofs.Reading
import StateMachine.Proofs.Report
import StateMachine.Proofs.Representation
import StateMachine.Proofs.Retargeting
import StateMachine.Proofs.Safety
import StateMachine.Proofs.Scoping
import StateMachine.Proofs.Writing
