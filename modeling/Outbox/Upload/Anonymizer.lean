import Outbox.Binary64.Arithmetic
import Outbox.Digest.Sha256
import Outbox.Upload.Anonymized

/-!
# Anonymizing

Names and addresses are replaced by digests with a salt, and a position by one rounded to two
decimals. A position that is not finite is left out.
-/

namespace Outbox

/-- The salted transformation of records into what is told of them. -/
structure Anonymizer where
  salt : String
  deriving DecidableEq, Repr

namespace Anonymizer

/-- The salt for a configuration without one. -/
def defaultSalt : String := "netcache/anonymizer/v1"

/-- The anonymizer with the default salt. -/
def standard : Anonymizer := ⟨defaultSalt⟩

instance : Inhabited Anonymizer := ⟨standard⟩

/-- The anonymizer for a configured salt; an empty one counts as none. -/
def ofSetting : Option String → Anonymizer
  | some salt => if salt.isEmpty then standard else ⟨salt⟩
  | none => standard

/-- How an anonymizer is shown: without its salt. -/
def shown (_ : Anonymizer) : String := "Anonymizer \x7b .. \x7d"

/-- The digest of a value followed by the salt. -/
def digest (a : Anonymizer) (value : String) : String :=
  Digest.sha256Hex (value ++ a.salt)

end Anonymizer

/-- A coordinate rounded to two decimals, a half away from zero: the coordinate times a hundred,
rounded and divided by a hundred again, all in doubles. -/
def Binary64.roundedCoordinate (x : Binary64) : Binary64 :=
  (x.mul hundred).roundHalfAway.div hundred

/-- A rounded position, if it was finite. -/
def GeoPoint.rounded? (p : GeoPoint) : Option GeoPoint :=
  if p.isFinite then some ⟨p.latitude.roundedCoordinate, p.longitude.roundedCoordinate⟩ else none

/-- What is told of a record. -/
def Anonymizer.transform (a : Anonymizer) (r : Record) : AnonymizedEvent :=
  let e := r.event
  let location := e.location.bind GeoPoint.rounded?
  { userHash := a.digest e.userId
    appName := e.appName
    appUid := e.appUid
    protocol := e.protocol
    domainHash := e.domain.map a.digest
    targetIpHash := e.targetIp.map a.digest
    targetPort := e.targetPort
    bytesSent := e.bytesSent
    bytesReceived := e.bytesReceived
    packetsSent := e.packetsSent
    packetsReceived := e.packetsReceived
    startTime := e.startTime
    endTime := e.endTime
    duration := e.duration
    latitude := location.map (·.latitude)
    longitude := location.map (·.longitude) }

end Outbox
