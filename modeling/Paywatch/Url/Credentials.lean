import Paywatch.Text.Percent
import Paywatch.Url.Split

/-!
# Credentials of an address

A user name and a password from elsewhere replace those that an address names.
Every other part of the address stays.
-/

namespace Paywatch

def userInfo (username : List Char) (password : Option (List Char)) : List Char :=
  Text.plusEncode username ++
    match password with
    | some (c :: cs) => ':' :: Text.plusEncode (c :: cs)
    | _ => []

namespace SplitUrl

def withUser (url : SplitUrl) (username : List Char) (password : Option (List Char)) : SplitUrl :=
  { url with authority := userInfo username password ++ '@' :: url.host }

end SplitUrl

/-- The address with the credentials, if there are both an address and a user name. -/
def withCredentials (address username password : Option String) :
    Except Failure (Option String) :=
  match address, username with
  | some a, some u =>
    if a.isEmpty || u.isEmpty then .ok address
    else do
      let url ← SplitUrl.ofChars a.toList
      return some (String.ofList (url.withUser u.toList (password.map String.toList)).chars)
  | _, _ => .ok address

end Paywatch
