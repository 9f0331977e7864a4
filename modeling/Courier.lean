import Courier.Agent
import Courier.Proofs.Agent.Closing
import Courier.Proofs.Journey.Budget
import Courier.Proofs.Journey.Delivery
import Courier.Proofs.Request.Prelude
import Courier.Proofs.Response.Segmentation
import Courier.Proofs.Stream.Use
import Courier.Proofs.Url.Target
import Courier.Proofs.Journey.Requests
import Courier.Proofs.Journey.Cookies
import Courier.Proofs.Response.Remainder
import Courier.Proofs.Request.Coding
import Courier.Proofs.Agent.Budget
import Courier.Proofs.Response.Rendering
import Courier.Proofs.Response.Session
import Courier.Proofs.Agent.Framing
import Courier.Proofs.Cookie.Expiry
import Courier.Proofs.Cookie.Scope
import Courier.Proofs.Cookie.Path
import Courier.Proofs.Cookie.Secure
import Courier.Proofs.Journey.Secure
import Courier.Proofs.Response.Turns
import Courier.Proofs.Response.Interrupted
import Courier.Proofs.Response.Iteration
import Courier.Proofs.Journey.Method
import Courier.Proofs.Request.Chunking
import Courier.Proofs.Url.Relative
import Courier.Proofs.Response.Limit
import Courier.Proofs.Cookie.Effect
import Courier.Proofs.Url.Query
import Courier.Proofs.Response.Partial
import Courier.Proofs.Agent.Truncation
import Courier.Proofs.Url.Readable
import Courier.Proofs.Header.Pair
import Courier.Proofs.Header.Joined
import Courier.Proofs.Number.Grammar
import Courier.Proofs.Number.Digits
import Courier.Proofs.Number.Reading
import Courier.Proofs.Settings
