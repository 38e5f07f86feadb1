import BranchPool.Fleet
import BranchPool.Main
import BranchPool.TestBranch
import BranchPool.Proofs.BranchMap
import BranchPool.Proofs.Provider.Run
import BranchPool.Proofs.Provider.Translation
import BranchPool.Proofs.Trace
import BranchPool.Proofs.Stage
import BranchPool.Proofs.Provider.Duty
import BranchPool.Proofs.Provider.Conduct
import BranchPool.Proofs.Provider.Ownership
import BranchPool.Proofs.Provider.Transcript
import BranchPool.Proofs.ResourceManager.Phases
import BranchPool.Proofs.ResourceManager.SessionEffect
import BranchPool.Proofs.Provider.Contract
import BranchPool.Proofs.ResourceManager.Answers
import BranchPool.Proofs.ResourceManager.Coupling
import BranchPool.Proofs.Deployment
import BranchPool.Proofs.XidOrder
import BranchPool.Proofs.Deployment.Handling
import BranchPool.Proofs.ResourceManager.Sharing
import BranchPool.Proofs.ResourceManager.Durability
import BranchPool.Proofs.Noted
import BranchPool.Proofs.ResourceManager.Resolution
import BranchPool.Proofs.Provider.Description
import BranchPool.Proofs.Fleet
import BranchPool.Proofs.ResourceManager.Standing
import BranchPool.Proofs.Provider.Finishing
import BranchPool.Proofs.ResourceManager.Completion
import BranchPool.Proofs.ResourceManager.Retry
import BranchPool.Proofs.ResourceManager.Custody
import BranchPool.Proofs.ResourceManager.Orphans
import BranchPool.Proofs.ResourceManager.Exclusion
import BranchPool.Proofs.Json.ReadBack
import BranchPool.Proofs.Snapshot
import BranchPool.Proofs.ResourceManager.Restart
import BranchPool.Proofs.Register
import BranchPool.Proofs.Register.Mirror
import BranchPool.Proofs.Register.Session
import BranchPool.Proofs.Register.Recorder
import BranchPool.Proofs.Recorder.Faults
import BranchPool.Proofs.Recorder.Bookkeeping
import BranchPool.Proofs.Provider.Course
import BranchPool.Proofs.Provider.Shutdown
import BranchPool.Proofs.Provider.Ledger
import BranchPool.Proofs.Provider.Refusal
import BranchPool.Proofs.Provider.Finalization
import BranchPool.Proofs.Provider.Engagement
import BranchPool.Proofs.ResourceManager.Verdict
import BranchPool.Proofs.ResourceManager.Veracity
import BranchPool.Proofs.ResourceManager.Outage
import BranchPool.Proofs.Provider.Demand
import BranchPool.Proofs.Provider.Queue
import BranchPool.Proofs.Workload.Poise
import BranchPool.Proofs.Workload.Simulation
import BranchPool.Proofs.Workload.Recovery
import BranchPool.Proofs.Json.Fields
import BranchPool.Proofs.XidText
import BranchPool.Proofs.ResourceManager.Commuting
import BranchPool.Proofs.ResourceManager.DataLinks
import BranchPool.Proofs.Listings
