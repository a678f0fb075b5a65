import Era.Core.Platform

/-!
# Vault references

A reference `vault:<domain>/<name>` names a stored secret without carrying it.
-/

namespace Era.Security

open Era.Core

def isAsciiAlphanumeric (char : Char) : Bool :=
  ('A' ≤ char && char ≤ 'Z') || ('a' ≤ char && char ≤ 'z') || ('0' ≤ char && char ≤ '9')

/-- `_PART_RE.match`. -/
def isVaultPart (text : List Char) : Bool :=
  match withoutFinalNewline text with
  | [] => false
  | first :: rest =>
      isAsciiAlphanumeric first && rest.length ≤ 63 &&
        rest.all fun char => isAsciiAlphanumeric char || char == '_' || char == '-'

/-- `parse_vault_ref`. -/
def parseVaultRef (ref : String) : Option (String × String) :=
  if "vault:".toList.isPrefixOf ref.toList then
    let rest := ref.toList.drop 6
    let domain := rest.takeWhile (· != '/')
    let name := rest.drop (domain.length + 1)
    if rest.contains '/' && isVaultPart domain && isVaultPart name then
      some (String.ofList domain, String.ofList name)
    else none
  else none

example : parseVaultRef "vault:browser/site" = some ("browser", "site") := by decide

end Era.Security
