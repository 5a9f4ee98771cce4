import ControlPlane.Wire.Standard

/-! JSON texts are valid UTF-8 whatever the strings of the object are, so a text that is put into
a string of another object is read back byte by byte. -/
namespace ControlPlane.Wire
open Go Digits

end ControlPlane.Wire
