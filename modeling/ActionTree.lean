import ActionTree.Main
import ActionTree.Moment.Reader
import ActionTree.Proofs.Interruption
import ActionTree.Proofs.LoopScope
import ActionTree.Proofs.Steady
import ActionTree.Proofs.Substitution
import ActionTree.Proofs.Isolation
import ActionTree.Proofs.Grammar
import ActionTree.Proofs.EnvelopeMarkup
import ActionTree.Proofs.DocumentText
import ActionTree.Proofs.ProgramCache
import ActionTree.Proofs.CacheEntry
import ActionTree.Proofs.JsonGrammar
import ActionTree.Proofs.JsonShape
import ActionTree.Proofs.CacheProbe
import ActionTree.Proofs.Replay
import ActionTree.Proofs.ResponseCache
import ActionTree.Proofs.Mild
import ActionTree.Proofs.Settle
import ActionTree.Proofs.Invariant
import ActionTree.Proofs.Extension
import ActionTree.Proofs.Termination
import ActionTree.Proofs.Nesting
import ActionTree.Proofs.Validation
import ActionTree.Proofs.Batch
import ActionTree.Proofs.Footprint
import ActionTree.Proofs.Signal
import ActionTree.Proofs.Confinement
import ActionTree.Proofs.SharedPrograms
import ActionTree.Proofs.WellFormed
import ActionTree.Proofs.LoopFold
import ActionTree.Proofs.WriteBack
import ActionTree.Proofs.Worklist
import ActionTree.Proofs.Counting
import ActionTree.Proofs.IntegerOperands
import ActionTree.Proofs.AcceptedCodings
import ActionTree.Proofs.EntityTags
import ActionTree.Proofs.HttpDates
import ActionTree.Proofs.Segmentation
import ActionTree.Proofs.Copying
import ActionTree.Proofs.Truth
import ActionTree.Proofs.LeadingCache
import ActionTree.Proofs.Addressing
import ActionTree.Proofs.Listing
import ActionTree.Proofs.Repetition
import ActionTree.Proofs.IntegerAttributes
import ActionTree.Proofs.Settings
import ActionTree.Proofs.StoreLaws
import ActionTree.Proofs.Narrowing
