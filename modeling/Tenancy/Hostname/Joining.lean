import Tenancy.Hostname.Marks

/-!
# Joiners

Two characters without a glyph that tell whether letters join. They are allowed only where they
make a difference: the rules of RFC 5892, appendix A.
-/

namespace Tenancy.Hostname

/-- Ranges of characters that take part in joining, marks apart: `0` joins on both sides, `1` with
the letter before, `2` with the letter after, and `3` lets others join across it. -/
def joiningRows : List String :=
  ["620 620 0,622 625 1,626 626 0,627 627 1,628 628 0,629 629 1,62a 62e 0,62f 632 1,633 63f 0",
   "641 647 0,648 648 1,649 64a 0,66e 66f 0,671 673 1,679 687 0,688 699 1,69a 6bf 0,6c0 6c0 1",
   "6c1 6c2 0,6c3 6cb 1,6cc 6cc 0,6cd 6cd 1,6ce 6ce 0,6cf 6cf 1,6d0 6d1 0,6d2 6d3 1,6d5 6d5 1",
   "6ee 6ef 1,6fa 6fc 0,6ff 6ff 0,710 710 1,712 714 0,715 719 1,71a 71d 0,71e 71e 1,71f 727 0",
   "728 728 1,729 729 0,72a 72a 1,72b 72b 0,72c 72c 1,72d 72e 0,72f 74d 1,74e 758 0,759 75b 1",
   "75c 76a 0,76b 76c 1,76d 770 0,771 771 1,772 772 0,773 774 1,775 777 0,778 779 1,77a 77f 0",
   "7ca 7ea 0,840 840 1,841 845 0,846 847 1,848 848 0,849 849 1,84a 853 0,854 854 1,855 855 0",
   "856 858 1,860 860 0,862 865 0,867 867 1,868 868 0,869 882 1,886 886 0,889 88d 0,88e 88e 1",
   "88f 8a9 0,8aa 8ac 1,8ae 8ae 1,8af 8b0 0,8b1 8b2 1,8b3 8b8 0,8b9 8b9 1,8ba 8c8 0,1807 1807 0",
   "1820 1878 0,1887 18aa 0,a840 a871 0,a872 a872 2,10ac0 10ac4 0,10ac5 10ac5 1,10ac7 10ac7 1",
   "10ac9 10aca 1,10acd 10acd 2,10ace 10ad2 1,10ad3 10ad6 0,10ad7 10ad7 2,10ad8 10adc 0",
   "10add 10add 1,10ade 10ae0 0,10ae1 10ae1 1,10ae4 10ae4 1,10aeb 10aee 0,10aef 10aef 1",
   "10b80 10b80 0,10b81 10b81 1,10b82 10b82 0,10b83 10b85 1,10b86 10b88 0,10b89 10b89 1",
   "10b8a 10b8b 0,10b8c 10b8c 1,10b8d 10b8d 0,10b8e 10b8f 1,10b90 10b90 0,10b91 10b91 1",
   "10ba9 10bac 1,10bad 10bae 0,10d00 10d00 2,10d01 10d21 0,10d22 10d22 1,10d23 10d23 0",
   "10ec2 10ec2 1,10ec3 10ec4 0,10ec6 10eca 0,10ed9 10ed9 0,10f30 10f32 0,10f33 10f33 1",
   "10f34 10f44 0,10f51 10f53 0,10f54 10f54 1,10f70 10f73 0,10f74 10f75 1,10f76 10f81 0",
   "10fb0 10fb0 0,10fb2 10fb3 0,10fb4 10fb6 1,10fb8 10fb8 0,10fb9 10fba 1,10fbb 10fbc 0",
   "10fbd 10fbd 1,10fbe 10fbf 0,10fc1 10fc1 0,10fc2 10fc3 1,10fc4 10fc4 0,10fc9 10fc9 1",
   "10fca 10fca 0,10fcb 10fcb 2,1e922 1e943 0,1e94b 1e94b 3"]

/-- How a letter joins with its neighbours. -/
inductive Joining where
  | both
  | before
  | after
  | across
  | never
deriving DecidableEq, Repr

def joinings : List Span := readSpans joiningRows

def Joining.ofChar (c : Char) : Joining :=
  if isNonspacing c then .across
  else match Span.value? joinings c with
    | some 0 => .both
    | some 1 => .before
    | some 2 => .after
    | some 3 => .across
    | _ => .never

/-- The sign that keeps letters apart. -/
def nonJoiner : Char := Char.ofNat 0x200c

/-- The sign that makes letters join. -/
def joiner : Char := Char.ofNat 0x200d

/-- The first letter that others do not join across has one of these ways to join. -/
def joinsAs (ways : List Joining) (cs : List Char) : Bool :=
  ((cs.map Joining.ofChar).dropWhile (· == .across)).head?.any ways.contains

/-- Each joiner is in its place; `before` are the characters before the rest, the last first. -/
def joinersFit (before : List Char) : List Char → Bool
  | [] => true
  | c :: rest =>
    let behindVirama := before.head?.any (markClass · == viramaClass)
    let fits :=
      if c = joiner then behindVirama
      else if c = nonJoiner then
        behindVirama || (joinsAs [.both, .after] before && joinsAs [.both, .before] rest)
      else true
    fits && joinersFit (c :: before) rest

end Tenancy.Hostname
