namespace ReceiverLog

def checksum (body : List UInt8) : UInt8 :=
  body.foldl (· ^^^ ·) 0

theorem checksum_append (left right : List UInt8) :
    checksum (left ++ right) = right.foldl (· ^^^ ·) (checksum left) := by
  simp [checksum]

end ReceiverLog
