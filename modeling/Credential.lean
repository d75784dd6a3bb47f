import Credential.Configuration.Assignments
import Credential.Http.Service
import Credential.Manager.Call
import Credential.Occasion.Drawn
import Credential.Proofs.Manager.ValidAccounts
import Credential.Proofs.Store.Agreement
import Credential.Proofs.Store.Atomicity
import Credential.Proofs.Store.LiveEmails
import Credential.Proofs.Store.OwnedKeys
import Credential.Proofs.Token.Validation
import Credential.Proofs.Token.Pinning
import Credential.Proofs.Token.KeyIds
import Credential.Proofs.Http.ValidAccounts
import Credential.Proofs.Secrecy.Masks
import Credential.Proofs.Secrecy.Steps
import Credential.Proofs.Secrecy.Managers
import Credential.Proofs.Secrecy.Answers
import Credential.Proofs.Json.Written
import Credential.Proofs.Manager.TokenLifecycle
import Credential.Proofs.Manager.ExpiredTokens
import Credential.Proofs.Store.Lookups
import Credential.Proofs.Store.Updates
import Credential.Proofs.Store.Lifetimes
import Credential.Proofs.Http.Atomicity
import Credential.Proofs.Http.Health
import Credential.Proofs.Http.Validation
import Credential.Proofs.Http.Readback
import Credential.Proofs.Manager.Authentication
import Credential.Proofs.Account.Patches
import Credential.Proofs.Manager.Patches
import Credential.Proofs.Account.Written
import Credential.Account.Operation
import Credential.Proofs.Account.Passwords
import Credential.Proofs.Account.Validation
import Credential.Proofs.Manager.KeyCreation
import Credential.Proofs.Manager.AccountCreation
import Credential.Proofs.Store.Listings
import Credential.Proofs.Registry
import Credential.Proofs.Http.Sharing
import Credential.Proofs.Http.TokenSources
import Credential.Proofs.Configuration.Environment
import Credential.Proofs.Manager.Failures
