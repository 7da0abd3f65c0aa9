import OpenUKR.Go.Result
import OpenUKR.Go.Time
import OpenUKR.Go.Strconv
import OpenUKR.Go.Map
import OpenUKR.Api.Types
import OpenUKR.Validation.Policy
import OpenUKR.Crypto.Keys
import OpenUKR.Crypto.Validate
import OpenUKR.Crypto.Generator
import OpenUKR.Webhook.Validator
import OpenUKR.Publish.Manager
import OpenUKR.Rotation.Manager
import OpenUKR.Controller.Reconcile
import OpenUKR.Controller.StatusLoop
import OpenUKR.Crypto.Pem
import OpenUKR.Crypto.Jwk
import OpenUKR.Output.Renderer
import OpenUKR.Output.Writer
import OpenUKR.Go.Path
import OpenUKR.Go.Effects
import OpenUKR.Publish.Targets
import OpenUKR.Publish.KeyAgreement
import OpenUKR.Controller.Cluster
import OpenUKR.Controller.OutputFormat
import OpenUKR.Controller.Ownership
