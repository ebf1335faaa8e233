import DebateMesh.Bytes.Hex

namespace DebateMesh

/-- Sixteen random octets with the version and the variant of a random UUID. -/
def stampRandom (random : Bytes) : Bytes :=
  random.zipIdx.map fun (b, i) =>
    if i = 6 then b &&& 0x0f ||| 0x40 else if i = 8 then b &&& 0x3f ||| 0x80 else b

def sessionIdOf (random : Bytes) : String := Hex.encode (stampRandom random)

/-- Twelve hexadecimal digits behind `req_`. -/
def requestIdOf (random : Bytes) : String := "req_" ++ Hex.encode ((stampRandom random).take 6)

/-- Eight hexadecimal digits behind `!node_`. -/
def nodeIdOf (random : Bytes) : String := "!node_" ++ Hex.encode ((stampRandom random).take 4)

end DebateMesh
