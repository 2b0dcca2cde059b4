
/-!
# Images of letters and ideographs

What a character of a name is replaced by: letters, digits and signs below the
CJK blocks, Latin letters and modifiers further up, and ideographs that are
doubles of unified ones.
-/

set_option maxRecDepth 8000

namespace TwoStep.Url.Name

/-- The images of `first`, `first + 1` and so on, one text for each. -/
structure Images where
  first : Nat
  texts : List (List Nat)

/-- The image of a code point, if the block has it. -/
def Images.get? (b : Images) (n : Nat) : Option (List Nat) :=
  if b.first ≤ n then b.texts[n - b.first]? else none

/-- The images of letters, digits and signs below the CJK blocks, and of Latin
letters and modifiers further up. -/
def letterImages : List Images := [
  ⟨0xa0, [[0x20]]⟩, ⟨0xa8, [[0x20, 0x308]]⟩, ⟨0xaa, [[0x61]]⟩, ⟨0xaf, [[0x20, 0x304]]⟩,
  ⟨0xb2, [[0x32], [0x33], [0x20, 0x301], [0x3bc]]⟩, ⟨0xb8, [[0x20, 0x327], [0x31], [0x6f]]⟩,
  ⟨0xbc, [[0x31, 0x2044, 0x34], [0x31, 0x2044, 0x32], [0x33, 0x2044, 0x34]]⟩,
  ⟨0x130, [[0x69, 0x307]]⟩, ⟨0x132, [[0x69, 0x6a], [0x69, 0x6a], [0x135]]⟩, ⟨0x136, [[0x137]]⟩,
  ⟨0x139, [[0x13a]]⟩, ⟨0x13b, [[0x13c]]⟩, ⟨0x13d, [[0x13e]]⟩,
  ⟨0x13f, [[0x6c, 0xb7], [0x6c, 0xb7]]⟩, ⟨0x149, [[0x2bc, 0x6e]]⟩, ⟨0x178, [[0xff], [0x17a]]⟩,
  ⟨0x17b, [[0x17c]]⟩, ⟨0x17d, [[0x17e]]⟩, ⟨0x17f, [[0x73]]⟩, ⟨0x181, [[0x253], [0x183]]⟩,
  ⟨0x184, [[0x185]]⟩, ⟨0x186, [[0x254], [0x188]]⟩, ⟨0x189, [[0x256], [0x257], [0x18c]]⟩,
  ⟨0x18e, [[0x1dd], [0x259], [0x25b], [0x192]]⟩, ⟨0x193, [[0x260], [0x263]]⟩,
  ⟨0x196, [[0x269], [0x268], [0x199]]⟩, ⟨0x19c, [[0x26f], [0x272]]⟩, ⟨0x19f, [[0x275], [0x1a1]]⟩,
  ⟨0x1a2, [[0x1a3]]⟩, ⟨0x1a4, [[0x1a5]]⟩, ⟨0x1a6, [[0x280], [0x1a8]]⟩, ⟨0x1a9, [[0x283]]⟩,
  ⟨0x1ac, [[0x1ad]]⟩, ⟨0x1ae, [[0x288], [0x1b0]]⟩, ⟨0x1b1, [[0x28a], [0x28b], [0x1b4]]⟩,
  ⟨0x1b5, [[0x1b6]]⟩, ⟨0x1b7, [[0x292], [0x1b9]]⟩, ⟨0x1bc, [[0x1bd]]⟩,
  ⟨0x1c4, [
    [0x64, 0x17e], [0x64, 0x17e], [0x64, 0x17e], [0x6c, 0x6a], [0x6c, 0x6a], [0x6c, 0x6a],
    [0x6e, 0x6a], [0x6e, 0x6a], [0x6e, 0x6a]]⟩,
  ⟨0x1f1, [[0x64, 0x7a], [0x64, 0x7a], [0x64, 0x7a], [0x1f5]]⟩, ⟨0x1f6, [[0x195], [0x1bf]]⟩,
  ⟨0x220, [[0x19e]]⟩, ⟨0x23a, [[0x2c65], [0x23c]]⟩, ⟨0x23d, [[0x19a], [0x2c66]]⟩,
  ⟨0x241, [[0x242]]⟩, ⟨0x243, [[0x180], [0x289], [0x28c]]⟩,
  ⟨0x2b0, [[0x68], [0x266], [0x6a], [0x72], [0x279], [0x27b], [0x281], [0x77], [0x79]]⟩,
  ⟨0x2d8, [
    [0x20, 0x306], [0x20, 0x307], [0x20, 0x30a], [0x20, 0x328], [0x20, 0x303], [0x20, 0x30b]]⟩,
  ⟨0x2e0, [[0x263], [0x6c], [0x73], [0x78], [0x295]]⟩, ⟨0x340, [[0x300], [0x301]]⟩,
  ⟨0x343, [[0x313], [0x308, 0x301], [0x3b9]]⟩, ⟨0x370, [[0x371]]⟩, ⟨0x372, [[0x373]]⟩,
  ⟨0x374, [[0x2b9]]⟩, ⟨0x376, [[0x377]]⟩, ⟨0x37a, [[0x20, 0x3b9]]⟩, ⟨0x37e, [[0x3b], [0x3f3]]⟩,
  ⟨0x384, [
    [0x20, 0x301], [0x20, 0x308, 0x301], [0x3ac], [0xb7], [0x3ad], [0x3ae], [0x3af]]⟩,
  ⟨0x38c, [[0x3cc]]⟩, ⟨0x38e, [[0x3cd], [0x3ce]]⟩,
  ⟨0x3cf, [[0x3d7], [0x3b2], [0x3b8], [0x3c5], [0x3cd], [0x3cb], [0x3c6], [0x3c0]]⟩,
  ⟨0x3f0, [[0x3ba], [0x3c1], [0x3c3]]⟩, ⟨0x3f4, [[0x3b8], [0x3b5]]⟩, ⟨0x3f7, [[0x3f8]]⟩,
  ⟨0x3f9, [[0x3c3], [0x3fb]]⟩, ⟨0x3fd, [[0x37b], [0x37c], [0x37d]]⟩, ⟨0x4c0, [[0x4cf]]⟩,
  ⟨0x587, [[0x565, 0x582]]⟩,
  ⟨0x675, [[0x627, 0x674], [0x648, 0x674], [0x6c7, 0x674], [0x64a, 0x674]]⟩,
  ⟨0x958, [
    [0x915, 0x93c], [0x916, 0x93c], [0x917, 0x93c], [0x91c, 0x93c], [0x921, 0x93c],
    [0x922, 0x93c], [0x92b, 0x93c], [0x92f, 0x93c]]⟩,
  ⟨0x9dc, [[0x9a1, 0x9bc], [0x9a2, 0x9bc]]⟩, ⟨0x9df, [[0x9af, 0x9bc]]⟩,
  ⟨0xa33, [[0xa32, 0xa3c]]⟩, ⟨0xa36, [[0xa38, 0xa3c]]⟩,
  ⟨0xa59, [[0xa16, 0xa3c], [0xa17, 0xa3c], [0xa1c, 0xa3c]]⟩, ⟨0xa5e, [[0xa2b, 0xa3c]]⟩,
  ⟨0xb5c, [[0xb21, 0xb3c], [0xb22, 0xb3c]]⟩, ⟨0xe33, [[0xe4d, 0xe32]]⟩,
  ⟨0xeb3, [[0xecd, 0xeb2]]⟩, ⟨0xedc, [[0xeab, 0xe99], [0xeab, 0xea1]]⟩, ⟨0xf0c, [[0xf0b]]⟩,
  ⟨0xf43, [[0xf42, 0xfb7]]⟩, ⟨0xf4d, [[0xf4c, 0xfb7]]⟩, ⟨0xf52, [[0xf51, 0xfb7]]⟩,
  ⟨0xf57, [[0xf56, 0xfb7]]⟩, ⟨0xf5c, [[0xf5b, 0xfb7]]⟩, ⟨0xf69, [[0xf40, 0xfb5]]⟩,
  ⟨0xf73, [[0xf71, 0xf72]]⟩,
  ⟨0xf75, [
    [0xf71, 0xf74], [0xfb2, 0xf80], [0xfb2, 0xf71, 0xf80], [0xfb3, 0xf80], [0xfb3, 0xf71, 0xf80]]⟩,
  ⟨0xf81, [[0xf71, 0xf80]]⟩, ⟨0xf93, [[0xf92, 0xfb7]]⟩, ⟨0xf9d, [[0xf9c, 0xfb7]]⟩,
  ⟨0xfa2, [[0xfa1, 0xfb7]]⟩, ⟨0xfa7, [[0xfa6, 0xfb7]]⟩, ⟨0xfac, [[0xfab, 0xfb7]]⟩,
  ⟨0xfb9, [[0xf90, 0xfb5]]⟩, ⟨0x10c7, [[0x2d27]]⟩, ⟨0x10cd, [[0x2d2d]]⟩, ⟨0x10fc, [[0x10dc]]⟩,
  ⟨0x1c80, [
    [0x432], [0x434], [0x43e], [0x441], [0x442], [0x442], [0x44a], [0x463], [0xa64b], [0x1c8a]]⟩,
  ⟨0x1cbd, [[0x10fd], [0x10fe], [0x10ff]]⟩, ⟨0x1d2c, [[0x61], [0xe6], [0x62]]⟩,
  ⟨0x1d30, [[0x64]]⟩, ⟨0x1d32, [[0x1dd]]⟩,
  ⟨0x1d3c, [
    [0x6f], [0x223], [0x70], [0x72], [0x74], [0x75], [0x77], [0x61], [0x250], [0x251], [0x1d02],
    [0x62], [0x64], [0x65], [0x259], [0x25b], [0x25c], [0x67]]⟩,
  ⟨0x1d4f, [
    [0x6b], [0x6d], [0x14b], [0x6f], [0x254], [0x1d16], [0x1d17], [0x70], [0x74], [0x75],
    [0x1d1d], [0x26f], [0x76], [0x1d25], [0x3b2], [0x3b3], [0x3b4], [0x3c6], [0x3c7], [0x69],
    [0x72], [0x75], [0x76], [0x3b2], [0x3b3], [0x3c1], [0x3c6], [0x3c7]]⟩,
  ⟨0x1d78, [[0x43d]]⟩,
  ⟨0x1d9b, [
    [0x252], [0x63], [0x255], [0xf0], [0x25c], [0x66], [0x25f], [0x261], [0x265], [0x268],
    [0x269], [0x26a], [0x1d7b], [0x29d], [0x26d], [0x1d85], [0x29f], [0x271], [0x270]]⟩,
  ⟨0x1db2, [
    [0x278], [0x282], [0x283], [0x1ab], [0x289], [0x28a], [0x1d1c], [0x28b], [0x28c], [0x7a],
    [0x290], [0x291], [0x292], [0x3b8]]⟩,
  ⟨0x1e9a, [[0x61, 0x2be], [0x1e61]]⟩, ⟨0x1e9e, [[0xdf]]⟩, ⟨0x1f71, [[0x3ac]]⟩,
  ⟨0x1f73, [[0x3ad]]⟩, ⟨0x1f75, [[0x3ae]]⟩, ⟨0x1f77, [[0x3af]]⟩, ⟨0x1f79, [[0x3cc]]⟩,
  ⟨0x1f7b, [[0x3cd]]⟩, ⟨0x1f7d, [[0x3ce]]⟩,
  ⟨0x1f80, [
    [0x1f00, 0x3b9], [0x1f01, 0x3b9], [0x1f02, 0x3b9], [0x1f03, 0x3b9], [0x1f04, 0x3b9],
    [0x1f05, 0x3b9], [0x1f06, 0x3b9], [0x1f07, 0x3b9], [0x1f00, 0x3b9], [0x1f01, 0x3b9],
    [0x1f02, 0x3b9], [0x1f03, 0x3b9], [0x1f04, 0x3b9], [0x1f05, 0x3b9], [0x1f06, 0x3b9],
    [0x1f07, 0x3b9], [0x1f20, 0x3b9], [0x1f21, 0x3b9], [0x1f22, 0x3b9], [0x1f23, 0x3b9],
    [0x1f24, 0x3b9], [0x1f25, 0x3b9], [0x1f26, 0x3b9], [0x1f27, 0x3b9], [0x1f20, 0x3b9],
    [0x1f21, 0x3b9], [0x1f22, 0x3b9], [0x1f23, 0x3b9], [0x1f24, 0x3b9], [0x1f25, 0x3b9],
    [0x1f26, 0x3b9], [0x1f27, 0x3b9], [0x1f60, 0x3b9], [0x1f61, 0x3b9], [0x1f62, 0x3b9],
    [0x1f63, 0x3b9], [0x1f64, 0x3b9], [0x1f65, 0x3b9], [0x1f66, 0x3b9], [0x1f67, 0x3b9],
    [0x1f60, 0x3b9], [0x1f61, 0x3b9], [0x1f62, 0x3b9], [0x1f63, 0x3b9], [0x1f64, 0x3b9],
    [0x1f65, 0x3b9], [0x1f66, 0x3b9], [0x1f67, 0x3b9]]⟩,
  ⟨0x1fb2, [[0x1f70, 0x3b9], [0x3b1, 0x3b9], [0x3ac, 0x3b9]]⟩,
  ⟨0x1fb7, [
    [0x1fb6, 0x3b9], [0x1fb0], [0x1fb1], [0x1f70], [0x3ac], [0x3b1, 0x3b9], [0x20, 0x313],
    [0x3b9], [0x20, 0x313], [0x20, 0x342], [0x20, 0x308, 0x342], [0x1f74, 0x3b9], [0x3b7, 0x3b9],
    [0x3ae, 0x3b9]]⟩,
  ⟨0x1fc7, [
    [0x1fc6, 0x3b9], [0x1f72], [0x3ad], [0x1f74], [0x3ae], [0x3b7, 0x3b9], [0x20, 0x313, 0x300],
    [0x20, 0x313, 0x301], [0x20, 0x313, 0x342]]⟩,
  ⟨0x1fd3, [[0x390]]⟩, ⟨0x1fd8, [[0x1fd0], [0x1fd1], [0x1f76], [0x3af]]⟩,
  ⟨0x1fdd, [[0x20, 0x314, 0x300], [0x20, 0x314, 0x301], [0x20, 0x314, 0x342]]⟩,
  ⟨0x1fe3, [[0x3b0]]⟩,
  ⟨0x1fe8, [
    [0x1fe0], [0x1fe1], [0x1f7a], [0x3cd], [0x1fe5], [0x20, 0x308, 0x300], [0x20, 0x308, 0x301],
    [0x60]]⟩,
  ⟨0x1ff2, [[0x1f7c, 0x3b9], [0x3c9, 0x3b9], [0x3ce, 0x3b9]]⟩,
  ⟨0x1ff7, [
    [0x1ff6, 0x3b9], [0x1f78], [0x3cc], [0x1f7c], [0x3ce], [0x3c9, 0x3b9], [0x20, 0x301],
    [0x20, 0x314]]⟩,
  ⟨0x2000, [
    [0x20], [0x20], [0x20], [0x20], [0x20], [0x20], [0x20], [0x20], [0x20], [0x20], [0x20]]⟩,
  ⟨0x2011, [[0x2010]]⟩, ⟨0x2017, [[0x20, 0x333]]⟩, ⟨0x202f, [[0x20]]⟩,
  ⟨0x2033, [[0x2032, 0x2032], [0x2032, 0x2032, 0x2032]]⟩,
  ⟨0x2036, [[0x2035, 0x2035], [0x2035, 0x2035, 0x2035]]⟩, ⟨0x203c, [[0x21, 0x21]]⟩,
  ⟨0x203e, [[0x20, 0x305]]⟩, ⟨0x2047, [[0x3f, 0x3f], [0x3f, 0x21], [0x21, 0x3f]]⟩,
  ⟨0x2057, [[0x2032, 0x2032, 0x2032, 0x2032]]⟩, ⟨0x205f, [[0x20]]⟩, ⟨0x2070, [[0x30], [0x69]]⟩,
  ⟨0x207a, [[0x2b], [0x2212], [0x3d], [0x28], [0x29], [0x6e]]⟩,
  ⟨0x208a, [[0x2b], [0x2212], [0x3d], [0x28], [0x29]]⟩,
  ⟨0x2090, [[0x61], [0x65], [0x6f], [0x78], [0x259], [0x68]]⟩,
  ⟨0x209a, [[0x70], [0x73], [0x74]]⟩, ⟨0x20a8, [[0x72, 0x73]]⟩,
  ⟨0x2100, [[0x61, 0x2f, 0x63], [0x61, 0x2f, 0x73], [0x63], [0xb0, 0x63]]⟩,
  ⟨0x2105, [[0x63, 0x2f, 0x6f], [0x63, 0x2f, 0x75], [0x25b]]⟩,
  ⟨0x2109, [
    [0xb0, 0x66], [0x67], [0x68], [0x68], [0x68], [0x68], [0x127], [0x69], [0x69], [0x6c], [0x6c]]⟩,
  ⟨0x2115, [[0x6e], [0x6e, 0x6f]]⟩, ⟨0x2119, [[0x70], [0x71], [0x72], [0x72], [0x72]]⟩,
  ⟨0x2120, [[0x73, 0x6d], [0x74, 0x65, 0x6c], [0x74, 0x6d]]⟩, ⟨0x2124, [[0x7a]]⟩,
  ⟨0x2126, [[0x3c9]]⟩, ⟨0x2128, [[0x7a]]⟩, ⟨0x212a, [[0x6b], [0xe5], [0x62], [0x63]]⟩,
  ⟨0x212f, [[0x65], [0x65], [0x66], [0x214e], [0x6d], [0x6f]]⟩, ⟨0x2139, [[0x69]]⟩,
  ⟨0x213b, [[0x66, 0x61, 0x78], [0x3c0], [0x3b3], [0x3b3], [0x3c0], [0x2211]]⟩,
  ⟨0x2145, [[0x64], [0x64], [0x65], [0x69], [0x6a]]⟩,
  ⟨0x2150, [
    [0x31, 0x2044, 0x37], [0x31, 0x2044, 0x39], [0x31, 0x2044, 0x31, 0x30], [0x31, 0x2044, 0x33],
    [0x32, 0x2044, 0x33], [0x31, 0x2044, 0x35], [0x32, 0x2044, 0x35], [0x33, 0x2044, 0x35],
    [0x34, 0x2044, 0x35], [0x31, 0x2044, 0x36], [0x35, 0x2044, 0x36], [0x31, 0x2044, 0x38],
    [0x33, 0x2044, 0x38], [0x35, 0x2044, 0x38], [0x37, 0x2044, 0x38], [0x31, 0x2044], [0x69],
    [0x69, 0x69], [0x69, 0x69, 0x69], [0x69, 0x76], [0x76], [0x76, 0x69], [0x76, 0x69, 0x69],
    [0x76, 0x69, 0x69, 0x69], [0x69, 0x78], [0x78], [0x78, 0x69], [0x78, 0x69, 0x69], [0x6c],
    [0x63], [0x64], [0x6d], [0x69], [0x69, 0x69], [0x69, 0x69, 0x69], [0x69, 0x76], [0x76],
    [0x76, 0x69], [0x76, 0x69, 0x69], [0x76, 0x69, 0x69, 0x69], [0x69, 0x78], [0x78],
    [0x78, 0x69], [0x78, 0x69, 0x69], [0x6c], [0x63], [0x64], [0x6d]]⟩,
  ⟨0x2183, [[0x2184]]⟩, ⟨0x2189, [[0x30, 0x2044, 0x33]]⟩,
  ⟨0x222c, [[0x222b, 0x222b], [0x222b, 0x222b, 0x222b]]⟩,
  ⟨0x222f, [[0x222e, 0x222e], [0x222e, 0x222e, 0x222e]]⟩, ⟨0x2329, [[0x3008], [0x3009]]⟩,
  ⟨0x2469, [
    [0x31, 0x30], [0x31, 0x31], [0x31, 0x32], [0x31, 0x33], [0x31, 0x34], [0x31, 0x35],
    [0x31, 0x36], [0x31, 0x37], [0x31, 0x38], [0x31, 0x39], [0x32, 0x30], [0x28, 0x31, 0x29],
    [0x28, 0x32, 0x29], [0x28, 0x33, 0x29], [0x28, 0x34, 0x29], [0x28, 0x35, 0x29],
    [0x28, 0x36, 0x29], [0x28, 0x37, 0x29], [0x28, 0x38, 0x29], [0x28, 0x39, 0x29],
    [0x28, 0x31, 0x30, 0x29], [0x28, 0x31, 0x31, 0x29], [0x28, 0x31, 0x32, 0x29],
    [0x28, 0x31, 0x33, 0x29], [0x28, 0x31, 0x34, 0x29], [0x28, 0x31, 0x35, 0x29],
    [0x28, 0x31, 0x36, 0x29], [0x28, 0x31, 0x37, 0x29], [0x28, 0x31, 0x38, 0x29],
    [0x28, 0x31, 0x39, 0x29], [0x28, 0x32, 0x30, 0x29]]⟩,
  ⟨0x249c, [
    [0x28, 0x61, 0x29], [0x28, 0x62, 0x29], [0x28, 0x63, 0x29], [0x28, 0x64, 0x29],
    [0x28, 0x65, 0x29], [0x28, 0x66, 0x29], [0x28, 0x67, 0x29], [0x28, 0x68, 0x29],
    [0x28, 0x69, 0x29], [0x28, 0x6a, 0x29], [0x28, 0x6b, 0x29], [0x28, 0x6c, 0x29],
    [0x28, 0x6d, 0x29], [0x28, 0x6e, 0x29], [0x28, 0x6f, 0x29], [0x28, 0x70, 0x29],
    [0x28, 0x71, 0x29], [0x28, 0x72, 0x29], [0x28, 0x73, 0x29], [0x28, 0x74, 0x29],
    [0x28, 0x75, 0x29], [0x28, 0x76, 0x29], [0x28, 0x77, 0x29], [0x28, 0x78, 0x29],
    [0x28, 0x79, 0x29], [0x28, 0x7a, 0x29]]⟩,
  ⟨0x24ea, [[0x30]]⟩, ⟨0x2a0c, [[0x222b, 0x222b, 0x222b, 0x222b]]⟩,
  ⟨0x2a74, [[0x3a, 0x3a, 0x3d], [0x3d, 0x3d], [0x3d, 0x3d, 0x3d]]⟩, ⟨0x2adc, [[0x2add, 0x338]]⟩,
  ⟨0x2c60, [[0x2c61]]⟩, ⟨0x2c62, [[0x26b], [0x1d7d], [0x27d]]⟩, ⟨0x2c67, [[0x2c68]]⟩,
  ⟨0x2c69, [[0x2c6a]]⟩, ⟨0x2c6b, [[0x2c6c]]⟩, ⟨0x2c6d, [[0x251], [0x271], [0x250], [0x252]]⟩,
  ⟨0x2c72, [[0x2c73]]⟩, ⟨0x2c75, [[0x2c76]]⟩, ⟨0x2c7c, [[0x6a], [0x76], [0x23f], [0x240]]⟩,
  ⟨0x2ceb, [[0x2cec]]⟩, ⟨0x2ced, [[0x2cee]]⟩, ⟨0x2cf2, [[0x2cf3]]⟩, ⟨0x2d6f, [[0x2d61]]⟩,
  ⟨0x2e9f, [[0x6bcd]]⟩, ⟨0x2ef3, [[0x9f9f]]⟩,
  ⟨0x2f00, [
    [0x4e00], [0x4e28], [0x4e36], [0x4e3f], [0x4e59], [0x4e85], [0x4e8c], [0x4ea0], [0x4eba],
    [0x513f], [0x5165], [0x516b], [0x5182], [0x5196], [0x51ab], [0x51e0], [0x51f5], [0x5200],
    [0x529b], [0x52f9], [0x5315], [0x531a], [0x5338], [0x5341], [0x535c], [0x5369], [0x5382],
    [0x53b6], [0x53c8], [0x53e3], [0x56d7], [0x571f], [0x58eb], [0x5902], [0x590a], [0x5915],
    [0x5927], [0x5973], [0x5b50], [0x5b80], [0x5bf8], [0x5c0f], [0x5c22], [0x5c38], [0x5c6e],
    [0x5c71], [0x5ddb], [0x5de5], [0x5df1], [0x5dfe], [0x5e72], [0x5e7a], [0x5e7f], [0x5ef4],
    [0x5efe], [0x5f0b], [0x5f13], [0x5f50], [0x5f61], [0x5f73], [0x5fc3], [0x6208], [0x6236],
    [0x624b], [0x652f], [0x6534], [0x6587], [0x6597], [0x65a4], [0x65b9], [0x65e0], [0x65e5],
    [0x66f0], [0x6708], [0x6728], [0x6b20], [0x6b62], [0x6b79], [0x6bb3], [0x6bcb], [0x6bd4],
    [0x6bdb], [0x6c0f], [0x6c14], [0x6c34], [0x706b], [0x722a], [0x7236], [0x723b], [0x723f],
    [0x7247], [0x7259], [0x725b], [0x72ac], [0x7384], [0x7389], [0x74dc], [0x74e6], [0x7518],
    [0x751f], [0x7528], [0x7530], [0x758b], [0x7592], [0x7676], [0x767d], [0x76ae], [0x76bf],
    [0x76ee], [0x77db], [0x77e2], [0x77f3], [0x793a], [0x79b8], [0x79be], [0x7a74], [0x7acb],
    [0x7af9], [0x7c73], [0x7cf8], [0x7f36], [0x7f51], [0x7f8a], [0x7fbd], [0x8001], [0x800c],
    [0x8012], [0x8033], [0x807f], [0x8089], [0x81e3], [0x81ea], [0x81f3], [0x81fc], [0x820c],
    [0x821b], [0x821f], [0x826e], [0x8272], [0x8278], [0x864d], [0x866b], [0x8840], [0x884c],
    [0x8863], [0x897e], [0x898b], [0x89d2], [0x8a00], [0x8c37], [0x8c46], [0x8c55], [0x8c78],
    [0x8c9d], [0x8d64], [0x8d70], [0x8db3], [0x8eab], [0x8eca], [0x8f9b], [0x8fb0], [0x8fb5],
    [0x9091], [0x9149], [0x91c6], [0x91cc], [0x91d1], [0x9577], [0x9580], [0x961c], [0x96b6],
    [0x96b9], [0x96e8], [0x9751], [0x975e], [0x9762], [0x9769], [0x97cb], [0x97ed], [0x97f3],
    [0x9801], [0x98a8], [0x98db], [0x98df], [0x9996], [0x9999], [0x99ac], [0x9aa8], [0x9ad8],
    [0x9adf], [0x9b25], [0x9b2f], [0x9b32], [0x9b3c], [0x9b5a], [0x9ce5], [0x9e75], [0x9e7f],
    [0x9ea5], [0x9ebb], [0x9ec3], [0x9ecd], [0x9ed1], [0x9ef9], [0x9efd], [0x9f0e], [0x9f13],
    [0x9f20], [0x9f3b], [0x9f4a], [0x9f52], [0x9f8d], [0x9f9c], [0x9fa0]]⟩,
  ⟨0xa69c, [[0x44a], [0x44c]]⟩, ⟨0xa770, [[0xa76f]]⟩, ⟨0xa779, [[0xa77a]]⟩, ⟨0xa77b, [[0xa77c]]⟩,
  ⟨0xa77d, [[0x1d79]]⟩, ⟨0xa78b, [[0xa78c]]⟩, ⟨0xa78d, [[0x265]]⟩, ⟨0xa790, [[0xa791]]⟩,
  ⟨0xa792, [[0xa793]]⟩, ⟨0xa7aa, [[0x266], [0x25c], [0x261], [0x26c], [0x26a]]⟩,
  ⟨0xa7b0, [[0x29e], [0x287], [0x29d], [0xab53]]⟩,
  ⟨0xa7c4, [[0xa794], [0x282], [0x1d8e], [0xa7c8]]⟩, ⟨0xa7c9, [[0xa7ca]]⟩, ⟨0xa7cb, [[0x264]]⟩,
  ⟨0xa7dc, [[0x19b]]⟩, ⟨0xa7f1, [[0x73], [0x63], [0x66], [0x71], [0xa7f6]]⟩,
  ⟨0xa7f8, [[0x127], [0x153]]⟩, ⟨0xab5c, [[0xa727], [0xab37], [0x26b], [0xab52]]⟩,
  ⟨0xab69, [[0x28d]]⟩,
  ⟨0xfb00, [
    [0x66, 0x66], [0x66, 0x69], [0x66, 0x6c], [0x66, 0x66, 0x69], [0x66, 0x66, 0x6c],
    [0x73, 0x74], [0x73, 0x74]]⟩]

/-- The images of ideographs that are doubles of unified ones. -/
def ideographImages : List Images := [
  ⟨0xf900, [
    [0x8c48], [0x66f4], [0x8eca], [0x8cc8], [0x6ed1], [0x4e32], [0x53e5], [0x9f9c], [0x9f9c],
    [0x5951], [0x91d1], [0x5587], [0x5948], [0x61f6], [0x7669], [0x7f85], [0x863f], [0x87ba],
    [0x88f8], [0x908f], [0x6a02], [0x6d1b], [0x70d9], [0x73de], [0x843d], [0x916a], [0x99f1],
    [0x4e82], [0x5375], [0x6b04], [0x721b], [0x862d], [0x9e1e], [0x5d50], [0x6feb], [0x85cd],
    [0x8964], [0x62c9], [0x81d8], [0x881f], [0x5eca], [0x6717], [0x6d6a], [0x72fc], [0x90ce],
    [0x4f86], [0x51b7], [0x52de], [0x64c4], [0x6ad3], [0x7210], [0x76e7], [0x8001], [0x8606],
    [0x865c], [0x8def], [0x9732], [0x9b6f], [0x9dfa], [0x788c], [0x797f], [0x7da0], [0x83c9],
    [0x9304], [0x9e7f], [0x8ad6], [0x58df], [0x5f04], [0x7c60], [0x807e], [0x7262], [0x78ca],
    [0x8cc2], [0x96f7], [0x58d8], [0x5c62], [0x6a13], [0x6dda], [0x6f0f], [0x7d2f], [0x7e37],
    [0x964b], [0x52d2], [0x808b], [0x51dc], [0x51cc], [0x7a1c], [0x7dbe], [0x83f1], [0x9675],
    [0x8b80], [0x62cf], [0x6a02], [0x8afe], [0x4e39], [0x5be7], [0x6012], [0x7387], [0x7570],
    [0x5317], [0x78fb], [0x4fbf], [0x5fa9], [0x4e0d], [0x6ccc], [0x6578], [0x7d22], [0x53c3],
    [0x585e], [0x7701], [0x8449], [0x8aaa], [0x6bba], [0x8fb0], [0x6c88], [0x62fe], [0x82e5],
    [0x63a0], [0x7565], [0x4eae], [0x5169], [0x51c9], [0x6881], [0x7ce7], [0x826f], [0x8ad2],
    [0x91cf], [0x52f5], [0x5442], [0x5973], [0x5eec], [0x65c5], [0x6ffe], [0x792a], [0x95ad],
    [0x9a6a], [0x9e97], [0x9ece], [0x529b], [0x66c6], [0x6b77], [0x8f62], [0x5e74], [0x6190],
    [0x6200], [0x649a], [0x6f23], [0x7149], [0x7489], [0x79ca], [0x7df4], [0x806f], [0x8f26],
    [0x84ee], [0x9023], [0x934a], [0x5217], [0x52a3], [0x54bd], [0x70c8], [0x88c2], [0x8aaa],
    [0x5ec9], [0x5ff5], [0x637b], [0x6bae], [0x7c3e], [0x7375], [0x4ee4], [0x56f9], [0x5be7],
    [0x5dba], [0x601c], [0x73b2], [0x7469], [0x7f9a], [0x8046], [0x9234], [0x96f6], [0x9748],
    [0x9818], [0x4f8b], [0x79ae], [0x91b4], [0x96b8], [0x60e1], [0x4e86], [0x50da], [0x5bee],
    [0x5c3f], [0x6599], [0x6a02], [0x71ce], [0x7642], [0x84fc], [0x907c], [0x9f8d], [0x6688],
    [0x962e], [0x5289], [0x677b], [0x67f3], [0x6d41], [0x6e9c], [0x7409], [0x7559], [0x786b],
    [0x7d10], [0x985e], [0x516d], [0x622e], [0x9678], [0x502b], [0x5d19], [0x6dea], [0x8f2a],
    [0x5f8b], [0x6144], [0x6817], [0x7387], [0x9686], [0x5229], [0x540f], [0x5c65], [0x6613],
    [0x674e], [0x68a8], [0x6ce5], [0x7406], [0x75e2], [0x7f79], [0x88cf], [0x88e1], [0x91cc],
    [0x96e2], [0x533f], [0x6eba], [0x541d], [0x71d0], [0x7498], [0x85fa], [0x96a3], [0x9c57],
    [0x9e9f], [0x6797], [0x6dcb], [0x81e8], [0x7acb], [0x7b20], [0x7c92], [0x72c0], [0x7099],
    [0x8b58], [0x4ec0], [0x8336], [0x523a], [0x5207], [0x5ea6], [0x62d3], [0x7cd6], [0x5b85],
    [0x6d1e], [0x66b4], [0x8f3b], [0x884c], [0x964d], [0x898b], [0x5ed3], [0x5140], [0x55c0]]⟩,
  ⟨0xfa10, [[0x585a]]⟩, ⟨0xfa12, [[0x6674]]⟩,
  ⟨0xfa15, [
    [0x51de], [0x732a], [0x76ca], [0x793c], [0x795e], [0x7965], [0x798f], [0x9756], [0x7cbe],
    [0x7fbd]]⟩,
  ⟨0xfa20, [[0x8612]]⟩, ⟨0xfa22, [[0x8af8]]⟩, ⟨0xfa25, [[0x9038], [0x90fd]]⟩,
  ⟨0xfa2a, [
    [0x98ef], [0x98fc], [0x9928], [0x9db4], [0x90de], [0x96b7], [0x4fae], [0x50e7], [0x514d],
    [0x52c9], [0x52e4], [0x5351], [0x559d], [0x5606], [0x5668], [0x5840], [0x58a8], [0x5c64],
    [0x5c6e], [0x6094], [0x6168], [0x618e], [0x61f2], [0x654f], [0x65e2], [0x6691], [0x6885],
    [0x6d77], [0x6e1a], [0x6f22], [0x716e], [0x722b], [0x7422], [0x7891], [0x793e], [0x7949],
    [0x7948], [0x7950], [0x7956], [0x795d], [0x798d], [0x798e], [0x7a40], [0x7a81], [0x7bc0],
    [0x7df4], [0x7e09], [0x7e41], [0x7f72], [0x8005], [0x81ed], [0x8279], [0x8279], [0x8457],
    [0x8910], [0x8996], [0x8b01], [0x8b39], [0x8cd3], [0x8d08], [0x8fb6], [0x9038], [0x96e3],
    [0x97ff], [0x983b], [0x6075], [0x242ee], [0x8218]]⟩,
  ⟨0xfa70, [
    [0x4e26], [0x51b5], [0x5168], [0x4f80], [0x5145], [0x5180], [0x52c7], [0x52fa], [0x559d],
    [0x5555], [0x5599], [0x55e2], [0x585a], [0x58b3], [0x5944], [0x5954], [0x5a62], [0x5b28],
    [0x5ed2], [0x5ed9], [0x5f69], [0x5fad], [0x60d8], [0x614e], [0x6108], [0x618e], [0x6160],
    [0x61f2], [0x6234], [0x63c4], [0x641c], [0x6452], [0x6556], [0x6674], [0x6717], [0x671b],
    [0x6756], [0x6b79], [0x6bba], [0x6d41], [0x6edb], [0x6ecb], [0x6f22], [0x701e], [0x716e],
    [0x77a7], [0x7235], [0x72af], [0x732a], [0x7471], [0x7506], [0x753b], [0x761d], [0x761f],
    [0x76ca], [0x76db], [0x76f4], [0x774a], [0x7740], [0x78cc], [0x7ab1], [0x7bc0], [0x7c7b],
    [0x7d5b], [0x7df4], [0x7f3e], [0x8005], [0x8352], [0x83ef], [0x8779], [0x8941], [0x8986],
    [0x8996], [0x8abf], [0x8af8], [0x8acb], [0x8b01], [0x8afe], [0x8aed], [0x8b39], [0x8b8a],
    [0x8d08], [0x8f38], [0x9072], [0x9199], [0x9276], [0x967c], [0x96e3], [0x9756], [0x97db],
    [0x97ff], [0x980b], [0x983b], [0x9b12], [0x9f9c], [0x2284a], [0x22844], [0x233d5], [0x3b9d],
    [0x4018], [0x4039], [0x25249], [0x25cd0], [0x27ed3], [0x9f43], [0x9f8e]]⟩,
  ⟨0x2f800, [
    [0x4e3d], [0x4e38], [0x4e41], [0x20122], [0x4f60], [0x4fae], [0x4fbb], [0x5002], [0x507a],
    [0x5099], [0x50e7], [0x50cf], [0x349e], [0x2063a], [0x514d], [0x5154], [0x5164], [0x5177],
    [0x2051c], [0x34b9], [0x5167], [0x518d], [0x2054b], [0x5197], [0x51a4], [0x4ecc], [0x51ac],
    [0x51b5], [0x291df], [0x51f5], [0x5203], [0x34df], [0x523b], [0x5246], [0x5272], [0x5277],
    [0x3515], [0x52c7], [0x52c9], [0x52e4], [0x52fa], [0x5305], [0x5306], [0x5317], [0x5349],
    [0x5351], [0x535a], [0x5373], [0x537d], [0x537f], [0x537f], [0x537f], [0x20a2c], [0x7070],
    [0x53ca], [0x53df], [0x20b63], [0x53eb], [0x53f1], [0x5406], [0x549e], [0x5438], [0x5448],
    [0x5468], [0x54a2], [0x54f6], [0x5510], [0x5553], [0x5563], [0x5584], [0x5584], [0x5599],
    [0x55ab], [0x55b3], [0x55c2], [0x5716], [0x5606], [0x5717], [0x5651], [0x5674], [0x5207],
    [0x58ee], [0x57ce], [0x57f4], [0x580d], [0x578b], [0x5832], [0x5831], [0x58ac], [0x214e4],
    [0x58f2], [0x58f7], [0x5906], [0x591a], [0x5922], [0x5962], [0x216a8], [0x216ea], [0x59ec],
    [0x5a1b], [0x5a27], [0x59d8], [0x5a66], [0x36ee], [0x36fc], [0x5b08], [0x5b3e], [0x5b3e],
    [0x219c8], [0x5bc3], [0x5bd8], [0x5be7], [0x5bf3], [0x21b18], [0x5bff], [0x5c06], [0x5f53],
    [0x5c22], [0x3781], [0x5c60], [0x5c6e], [0x5cc0], [0x5c8d], [0x21de4], [0x5d43], [0x21de6],
    [0x5d6e], [0x5d6b], [0x5d7c], [0x5de1], [0x5de2], [0x382f], [0x5dfd], [0x5e28], [0x5e3d],
    [0x5e69], [0x3862], [0x22183], [0x387c], [0x5eb0], [0x5eb3], [0x5eb6], [0x5eca], [0x2a392],
    [0x5efe], [0x22331], [0x22331], [0x8201], [0x5f22], [0x5f22], [0x38c7], [0x232b8], [0x261da],
    [0x5f62], [0x5f6b], [0x38e3], [0x5f9a], [0x5fcd], [0x5fd7], [0x5ff9], [0x6081], [0x393a],
    [0x391c], [0x6094], [0x226d4], [0x60c7], [0x6148], [0x614c], [0x614e], [0x614c], [0x617a],
    [0x618e], [0x61b2], [0x61a4], [0x61af], [0x61de], [0x61f2], [0x61f6], [0x6210], [0x621b],
    [0x625d], [0x62b1], [0x62d4], [0x6350], [0x22b0c], [0x633d], [0x62fc], [0x6368], [0x6383],
    [0x63e4], [0x22bf1], [0x6422], [0x63c5], [0x63a9], [0x3a2e], [0x6469], [0x647e], [0x649d],
    [0x6477], [0x3a6c], [0x654f], [0x656c], [0x2300a], [0x65e3], [0x66f8], [0x6649], [0x3b19],
    [0x6691], [0x3b08], [0x3ae4], [0x5192], [0x5195], [0x6700], [0x669c], [0x80ad], [0x43d9],
    [0x6717], [0x671b], [0x6721], [0x675e], [0x6753], [0x233c3], [0x3b49], [0x67fa], [0x6785],
    [0x6852], [0x6885], [0x2346d], [0x688e], [0x681f], [0x6914], [0x3b9d], [0x6942], [0x69a3],
    [0x69ea], [0x6aa8], [0x236a3], [0x6adb], [0x3c18], [0x6b21], [0x238a7], [0x6b54], [0x3c4e],
    [0x6b72], [0x6b9f], [0x6bba], [0x6bbb], [0x23a8d], [0x21d0b], [0x23afa], [0x6c4e], [0x23cbc],
    [0x6cbf], [0x6ccd], [0x6c67], [0x6d16], [0x6d3e], [0x6d77], [0x6d41], [0x6d69], [0x6d78],
    [0x6d85], [0x23d1e], [0x6d34], [0x6e2f], [0x6e6e], [0x3d33], [0x6ecb], [0x6ec7], [0x23ed1],
    [0x6df9], [0x6f6e], [0x23f5e], [0x23f8e], [0x6fc6], [0x7039], [0x701e], [0x701b], [0x3d96],
    [0x704a], [0x707d], [0x7077], [0x70ad], [0x20525], [0x7145], [0x24263], [0x719c], [0x243ab],
    [0x7228], [0x7235], [0x7250], [0x24608], [0x7280], [0x7295], [0x24735], [0x24814], [0x737a],
    [0x738b], [0x3eac], [0x73a5], [0x3eb8], [0x3eb8], [0x7447], [0x745c], [0x7471], [0x7485],
    [0x74ca], [0x3f1b], [0x7524], [0x24c36], [0x753e], [0x24c92], [0x7570], [0x2219f], [0x7610],
    [0x24fa1], [0x24fb8], [0x25044], [0x3ffc], [0x4008], [0x76f4], [0x250f3], [0x250f2],
    [0x25119], [0x25133], [0x771e], [0x771f], [0x771f], [0x774a], [0x4039], [0x778b], [0x4046],
    [0x4096], [0x2541d], [0x784e], [0x788c], [0x78cc], [0x40e3], [0x25626], [0x7956], [0x2569a],
    [0x256c5], [0x798f], [0x79eb], [0x412f], [0x7a40], [0x7a4a], [0x7a4f], [0x2597c], [0x25aa7],
    [0x25aa7], [0x7aee], [0x4202], [0x25bab], [0x7bc6], [0x7bc9], [0x4227], [0x25c80], [0x7cd2],
    [0x42a0], [0x7ce8], [0x7ce3], [0x7d00], [0x25f86], [0x7d63], [0x4301], [0x7dc7], [0x7e02],
    [0x7e45], [0x4334], [0x26228], [0x26247], [0x4359], [0x262d9], [0x7f7a], [0x2633e], [0x7f95],
    [0x7ffa], [0x8005], [0x264da], [0x26523], [0x8060], [0x265a8], [0x8070], [0x2335f], [0x43d5],
    [0x80b2], [0x8103], [0x440b], [0x813e], [0x5ab5], [0x267a7], [0x267b5], [0x23393], [0x2339c],
    [0x8201], [0x8204], [0x8f9e], [0x446b], [0x8291], [0x828b], [0x829d], [0x52b3], [0x82b1],
    [0x82b3], [0x82bd], [0x82e6], [0x26b3c], [0x82e5], [0x831d], [0x8363], [0x83ad], [0x8323],
    [0x83bd], [0x83e7], [0x8457], [0x8353], [0x83ca], [0x83cc], [0x83dc], [0x26c36], [0x26d6b],
    [0x26cd5], [0x452b], [0x84f1], [0x84f3], [0x8516], [0x273ca], [0x8564], [0x26f2c], [0x455d],
    [0x4561], [0x26fb1], [0x270d2], [0x456b], [0x8650], [0x865c], [0x8667], [0x8669], [0x86a9],
    [0x8688], [0x870e], [0x86e2], [0x8779], [0x8728], [0x876b], [0x8786], [0x45d7], [0x87e1],
    [0x8801], [0x45f9], [0x8860], [0x8863], [0x27667], [0x88d7], [0x88de], [0x4635], [0x88fa],
    [0x34bb], [0x278ae], [0x27966], [0x46be], [0x46c7], [0x8aa0], [0x8aed], [0x8b8a], [0x8c55],
    [0x27ca8], [0x8cab], [0x8cc1], [0x8d1b], [0x8d77], [0x27f2f], [0x20804], [0x8dcb], [0x8dbc],
    [0x8df0], [0x208de], [0x8ed4], [0x8f38], [0x285d2], [0x285ed], [0x9094], [0x90f1], [0x9111],
    [0x2872e], [0x911b], [0x9238], [0x92d7], [0x92d8], [0x927c], [0x93f9], [0x9415], [0x28bfa],
    [0x958b], [0x4995], [0x95b7], [0x28d77], [0x49e6], [0x96c3], [0x5db2], [0x9723], [0x29145],
    [0x2921a], [0x4a6e], [0x4a76], [0x97e0], [0x2940a], [0x4ab2], [0x29496], [0x980b], [0x980b],
    [0x9829], [0x295b6], [0x98e2], [0x4b33], [0x9929], [0x99a7], [0x99c2], [0x99fe], [0x4bce],
    [0x29b30], [0x9b12], [0x9c40], [0x9cfd], [0x4cce], [0x4ced], [0x9d67], [0x2a0ce], [0x4cf8],
    [0x2a105], [0x2a20e], [0x2a291], [0x9ebb], [0x4d56], [0x9ef9], [0x9efe], [0x9f05], [0x9f0f],
    [0x9f16], [0x9f3b], [0x2a600]]⟩]

end TwoStep.Url.Name
