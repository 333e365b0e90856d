import Internet2.Proofs.Session.Accessors
import Internet2.Proofs.Session.Arms
import Internet2.Proofs.Session.Display
import Internet2.Proofs.Session.Parsing
import Internet2.Proofs.Session.Reread
import Internet2.Proofs.Session.Settled
