import Lego.Acme.Core

/-!
# Directory discovery

`New` fetches the CA's directory once, through `getDirectory`, and refuses a
directory that does not say where to register an account or to create an order.
The directory's new-nonce URL is the one the core's nonce manager sends its
`HEAD` requests to.
-/

namespace Lego.Acme

/-- `acme.Directory`, with the URLs `New` and `getDirectory` read. -/
structure Directory where
  newNonceURL : String
  newAccountURL : String
  newOrderURL : String
  deriving DecidableEq

/-- The error of a directory with no new-account URL. -/
def missingNewAccountURL : Error := .other ("directory missing new registration URL")

/-- The error of a directory with no new-order URL. -/
def missingNewOrderURL : Error := .other ("directory missing new order URL")

/-- `getDirectory`: fetch the directory at `caDirURL`, then require the URLs that
new accounts and new orders are posted to. `do.Get` is given by its result, the
decoded directory or the text of its error. -/
def getDirectory (fetched : Except String Directory) (caDirURL : String) :
    Except Error Directory :=
  match fetched with
  | .error err => .error (.other ("get directory at \x27" ++ caDirURL ++ "\x27: " ++ err))
  | .ok dir =>
    if dir.newAccountURL = "" then .error missingNewAccountURL
    else if dir.newOrderURL = "" then .error missingNewOrderURL
    else .ok dir

end Lego.Acme
