import ClusterAccess.Text.Split
import ClusterAccess.Text.UpperCase

/-!
# Master URLs

A master URL in normal form has the scheme `http` or `https`, in any case of its letters, and ends with
one slash.
-/
namespace ClusterAccess.MasterUrl

def httpPrefix : String := "http://"

def httpsPrefix : String := "https://"

def hasScheme (url : String) : Bool :=
  let lowered := Text.asciiLower url
  Text.startsWith httpPrefix lowered || Text.startsWith httpsPrefix lowered

/-- The scheme of a URL that has none, by whether TLS can be used. -/
def schemeFor (https : Bool) : String := if https then httpsPrefix else httpPrefix

def ensureScheme (url : String) (https : Bool) : String :=
  if hasScheme url then url else schemeFor https ++ url

def dropSlashes (cs : List Char) : List Char := (cs.reverse.dropWhile (· == '/')).reverse

def ensureTrailingSlash (url : String) : String := String.ofList (dropSlashes url.toList ++ ['/'])

/-- An address of a host and a port; a host with colons stands in brackets. -/
def hostPort (host port : String) : String :=
  if host.toList.contains ':' then "[" ++ host ++ "]:" ++ port else host ++ ":" ++ port

example : ensureTrailingSlash "https://a//" = "https://a/" ∧ hostPort "::1" "443" = "[::1]:443" := by
  decide

end ClusterAccess.MasterUrl
