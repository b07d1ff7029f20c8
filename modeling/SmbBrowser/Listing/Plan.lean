import SmbBrowser.Listing.Sorts

/-! What has to be known to make a listing, apart from the settings. -/

namespace SmbBrowser

/-- A listing that is still to be made. -/
inductive ListingPlan where
  /-- A directory, by search. -/
  | search (directory : Locator) (pattern : String) (searchAttributes : UInt16)
  /-- A directory, by an open directory. -/
  | directory (directory : Locator) (pattern : String)
  /-- The domains that can be seen from a domain. -/
  | domains (oemDomain : String)
  /-- Every server of a workgroup. -/
  | workgroup (name : String)
  /-- The servers of some types. -/
  | servers (domain : String) (types : UInt32) (workgroup : Bool)
  /-- Shares. -/
  | shares
  /-- Whatever is laid down. -/
  | rehearsed (listing : RehearsedListing)

/-- Makes a listing; a directory whose address is no directory's is refused. -/
def ListingPlan.make (plan : ListingPlan) (settings : Settings) : Except Fault Listing :=
  match plan with
  | .search locator pattern searchAttributes =>
    (SearchListing.new locator pattern searchAttributes settings).map .search
  | .directory locator pattern => (DirectoryListing.new locator pattern settings).map .directory
  | .domains oemDomain => .ok (.network (.domains oemDomain settings))
  | .workgroup name => .ok (.network (.ofWorkgroup name settings))
  | .servers domain types continues => .ok (.network (.new domain types continues settings))
  | .shares => .ok (.host {})
  | .rehearsed listing => .ok (.rehearsed listing)

end SmbBrowser
