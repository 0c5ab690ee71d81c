import ControlPlane.Text.Quoted

/-!
# What went wrong

`Detail` lists the conditions this library reports, with the data each names; `reported` holds the
words of someone else. `Detail.message` is the one place that words them.
-/

namespace ControlPlane

/-- A condition to report. -/
inductive Detail
  | reported (message : String)
  | zoneFormat (written : String)
  | zoneInvalid (zone reason : String)
  | zoneUnavailable (zone : String) (available : List String)
  | addressFormat (written : String)
  | rangeFormat (written : String)
  | networkIdRequired
  | delayNotPositive
  | noTags
  | noneFound (description : String)
  | severalFound (count : Nat) (description : String)
  | callFailed (method reason : String)
  | callInterrupted (method reason : String)
  | canceled
  | deadlineExceeded
  | pinnedAddressMissing (address reason : String)
  | pinnedPrivateAddressMissing (address : String)
  | notReady (balancer status : String)
  | privateAddressPending (balancer : String)
  | noPrivateAddress (balancer : String)
  | noPublicAddress (balancer : String)
  | absent (kind id : String)
  | absentKey (key : String)
  | malformed (count : Nat)
  deriving DecidableEq, Repr

/-- The wording of a condition. -/
def Detail.message : Detail → String
  | reported message => message
  | zoneFormat written =>
    "bad zone format, available zones are fr-par-1, nl-ams-1, ...: " ++ Text.quoted written
  | zoneInvalid zone reason => "zone " ++ zone ++ " is not valid: " ++ reason
  | zoneUnavailable zone available =>
    "zone " ++ zone ++ " must be one of the following zones (" ++
      String.intercalate ", " available ++ ")"
  | addressFormat written =>
    Text.quoted written ++ " does not appear to be an IPv4 or IPv6 address"
  | rangeFormat written =>
    Text.quoted written ++ " does not appear to be an IPv4 or IPv6 network"
  | networkIdRequired => "private_network.id is required when the private network is enabled"
  | delayNotPositive => "requeue_after must be positive"
  | noTags => "tags cannot be empty"
  | noneFound description => "no item found: " ++ description
  | severalFound count description =>
    "expected to find only one item: found " ++ toString count ++ " " ++ description
  | callFailed method reason => "error occurred while calling " ++ method ++ ": " ++ reason
  | callInterrupted method reason => method ++ " interrupted: " ++ reason
  | canceled => "reconcile canceled"
  | deadlineExceeded => "reconcile deadline exceeded"
  | pinnedAddressMissing address reason =>
    "failed to find IP " ++ Text.quoted address ++ ": " ++ reason
  | pinnedPrivateAddressMissing address =>
    "did not find available IP with address " ++ address ++ " in IPAM"
  | notReady balancer status =>
    "lb " ++ balancer ++ " is not yet ready: currently " ++ status
  | privateAddressPending balancer =>
    "private IP for lb " ++ balancer ++ " is not yet available in IPAM"
  | noPrivateAddress balancer => "did not find private ipv4 for lb " ++ balancer
  | noPublicAddress balancer => "did not find ipv4 for lb " ++ balancer
  | absent kind id => kind ++ " " ++ id ++ " does not exist"
  | absentKey key => Text.quoted key
  | malformed count => toString count ++ " validation errors"

end ControlPlane
