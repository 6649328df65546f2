import ImageRegistry.Proofs.Exchange.Handshake
import ImageRegistry.Proofs.Exchange.ManifestRequest
import ImageRegistry.Proofs.Text.Utf8

namespace ImageRegistry

open Text

section Faults

variable {status : Int} {headers : Headers} {charset : Charset} {body : List UInt8}

end Faults

end ImageRegistry
