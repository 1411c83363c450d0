import LineEditor.Unicode.Table

/-! The classes of code points that simple case folding identifies. -/

namespace LineEditor.Unicode

/-- One class an entry: the distance of its least code point from that of the class before, then the
distances of the other members from the least.
-/
def foldOrbitEntries : List String :=
  ["65:32 1:32 1:32 1:32 1:32 1:32 1:32 1:32 1:32 1:32 1:32:8415 1:32 1:32 1:32 1:32 1:32 1:32",
   "1:32 1:32:300 1:32 1:32 1:32 1:32 1:32 1:32 1:32 91:743:775 11:32 1:32 1:32 1:32 1:32",
   "1:32:8294 1:32 1:32 1:32 1:32 1:32 1:32 1:32 1:32 1:32 1:32 1:32 1:32 1:32 1:32 1:32 1:32",
   "1:32 2:32 1:32 1:32 1:32 1:32 1:32 1:32 1:7615 32:121 1:1 2:1 2:1 2:1 2:1 2:1 2:1 2:1 2:1",
   "2:1 2:1 2:1 2:1 2:1 2:1 2:1 2:1 2:1 2:1 2:1 2:1 2:1 2:1 2:1 4:1 2:1 2:1 3:1 2:1 2:1 2:1",
   "2:1 2:1 2:1 2:1 3:1 2:1 2:1 2:1 2:1 2:1 2:1 2:1 2:1 2:1 2:1 2:1 2:1 2:1 2:1 2:1 2:1 2:1",
   "2:1 2:1 2:1 2:1 2:1 3:1 2:1 2:1 3:195 1:210 1:1 2:1 2:206 1:1 2:205 1:205 1:1 3:79 1:202",
   "1:203 1:1 2:205 1:207 1:97 1:211 1:209 1:1 2:163 1:42561 1:211 1:213 1:130 1:214 1:1 2:1",
   "2:1 2:218 1:1 2:218 3:1 2:218 1:1 2:217 1:217 1:1 2:1 2:219 1:1 4:1 3:56 5:1:2 3:1:2 3:1:2",
   "3:1 2:1 2:1 2:1 2:1 2:1 2:1 2:1 3:1 2:1 2:1 2:1 2:1 2:1 2:1 2:1 2:1 3:1:2 3:1 4:1 2:1 2:1",
   "2:1 2:1 2:1 2:1 2:1 2:1 2:1 2:1 2:1 2:1 2:1 2:1 2:1 2:1 2:1 2:1 2:1 4:1 2:1 2:1 2:1 2:1",
   "2:1 2:1 2:1 2:1 8:10795 1:1 3:10792 1:10815 1:10815 1:1 3:69 1:71 1:1 2:1 2:1 2:1 2:1",
   "2:10783 1:10780 1:10782 10:42319 5:42315 3:42343 1:42280 1:42308 4:42308 1:10743 1:42305",
   "5:10749 12:10727 5:42307 5:42282 22:42261 1:42258 167:84:116:7289 43:1 2:1 4:1 5:130 1:130",
   "1:130 2:116 7:38 2:37 1:37 1:37 2:64 2:63 1:63 1:7235 1:32 1:32:62 1:32 1:32 1:32:96 1:32",
   "1:32 1:32:57:92 2:32:86 1:32 2:32 1:32 1:32 1:32:54 1:32:80 2:31:32 1:32 1:32 1:32:47 1:32",
   "1:32 1:32:7549 1:32 1:32 5:7219 31:8 9:1 2:1 2:1 2:1 2:1 2:1 2:1 2:1 2:1 2:1 2:1 2:1 4:7",
   "5:1 3:1 6:80 1:80 1:80 1:80 1:80 1:80 1:80 1:80 1:80 1:80 1:80 1:80 1:80 1:80 1:80 1:80",
   "1:32 1:32 1:32:6254 1:32 1:32:6253 1:32 1:32 1:32 1:32 1:32 1:32 1:32 1:32 1:32 1:32:6244",
   "1:32 1:32 1:32:6242 1:32:6242:6243 1:32 1:32 1:32 1:32 1:32 1:32 1:32 1:32:6236 1:32 1:32",
   "1:32 1:32 1:32 49:1 2:1:6181 2:1 2:1 2:1 2:1 2:1 2:1 2:1 2:1 2:1 2:1 2:1 2:1 2:1 2:1 2:1",
   "10:1 2:1 2:1 2:1 2:1 2:1 2:1 2:1 2:1 2:1 2:1 2:1 2:1 2:1 2:1 2:1 2:1 2:1 2:1 2:1 2:1 2:1",
   "2:1 2:1 2:1 2:1 2:1 2:15 1:1 2:1 2:1 2:1 2:1 2:1 2:1 3:1 2:1 2:1 2:1 2:1 2:1 2:1 2:1 2:1",
   "2:1 2:1 2:1 2:1 2:1 2:1 2:1 2:1 2:1 2:1 2:1 2:1 2:1 2:1 2:1 2:1 2:1 2:1 2:1 2:1 2:1 2:1",
   "2:1 2:1 2:1 2:1 2:1 2:1 2:1 2:1 2:1 2:1 2:1 2:1 2:1 2:1 2:1 2:1 2:1 3:48 1:48 1:48 1:48",
   "1:48 1:48 1:48 1:48 1:48 1:48 1:48 1:48 1:48 1:48 1:48 1:48 1:48 1:48 1:48 1:48 1:48 1:48",
   "1:48 1:48 1:48 1:48 1:48 1:48 1:48 1:48 1:48 1:48 1:48 1:48 1:48 1:48 1:48 1:48 2890:7264",
   "1:7264 1:7264 1:7264 1:7264 1:7264 1:7264 1:7264 1:7264 1:7264 1:7264 1:7264 1:7264 1:7264",
   "1:7264 1:7264 1:7264 1:7264 1:7264 1:7264 1:7264 1:7264 1:7264 1:7264 1:7264 1:7264 1:7264",
   "1:7264 1:7264 1:7264 1:7264 1:7264 1:7264 1:7264 1:7264 1:7264 1:7264 1:7264 2:7264 6:7264",
   "3:3008 1:3008 1:3008 1:3008 1:3008 1:3008 1:3008 1:3008 1:3008 1:3008 1:3008 1:3008 1:3008",
   "1:3008 1:3008 1:3008 1:3008 1:3008 1:3008 1:3008 1:3008 1:3008 1:3008 1:3008 1:3008 1:3008",
   "1:3008 1:3008 1:3008 1:3008 1:3008 1:3008 1:3008 1:3008 1:3008 1:3008 1:3008 1:3008 1:3008",
   "1:3008 1:3008 1:3008 1:3008 3:3008 1:3008 1:3008 673:38864 1:38864 1:38864 1:38864 1:38864",
   "1:38864 1:38864 1:38864 1:38864 1:38864 1:38864 1:38864 1:38864 1:38864 1:38864 1:38864",
   "1:38864 1:38864 1:38864 1:38864 1:38864 1:38864 1:38864 1:38864 1:38864 1:38864 1:38864",
   "1:38864 1:38864 1:38864 1:38864 1:38864 1:38864 1:38864 1:38864 1:38864 1:38864 1:38864",
   "1:38864 1:38864 1:38864 1:38864 1:38864 1:38864 1:38864 1:38864 1:38864 1:38864 1:38864",
   "1:38864 1:38864 1:38864 1:38864 1:38864 1:38864 1:38864 1:38864 1:38864 1:38864 1:38864",
   "1:38864 1:38864 1:38864 1:38864 1:38864 1:38864 1:38864 1:38864 1:38864 1:38864 1:38864",
   "1:38864 1:38864 1:38864 1:38864 1:38864 1:38864 1:38864 1:38864 1:38864 1:8 1:8 1:8 1:8",
   "1:8 1:8 2195:35266:35267 1:1 240:35332 4:3814 17:35384 114:1 2:1 2:1 2:1 2:1 2:1 2:1 2:1",
   "2:1 2:1 2:1 2:1 2:1 2:1 2:1 2:1 2:1 2:1 2:1 2:1 2:1 2:1 2:1 2:1 2:1 2:1 2:1 2:1 2:1 2:1",
   "2:1 2:1 2:1 2:1 2:1 2:1 2:1 2:1 2:1 2:1 2:1 2:1 2:1 2:1 2:1 2:1 2:1 2:1 2:1:59 2:1 2:1 2:1",
   "2:1 2:1 2:1 2:1 2:1 2:1 2:1 2:1 2:1 2:1 2:1 2:1 2:1 2:1 2:1 2:1 2:1 2:1 2:1 2:1 2:1 2:1",
   "2:1 12:1 2:1 2:1 2:1 2:1 2:1 2:1 2:1 2:1 2:1 2:1 2:1 2:1 2:1 2:1 2:1 2:1 2:1 2:1 2:1 2:1",
   "2:1 2:1 2:1 2:1 2:1 2:1 2:1 2:1 2:1 2:1 2:1 2:1 2:1 2:1 2:1 2:1 2:1 2:1 2:1 2:1 2:1 2:1",
   "2:1 2:1 2:1 2:1 2:1 2:8 1:8 1:8 1:8 1:8 1:8 1:8 1:8 9:8 1:8 1:8 1:8 1:8 1:8 11:8 1:8 1:8",
   "1:8 1:8 1:8 1:8 1:8 9:8 1:8 1:8 1:8 1:8 1:8 1:8 1:8 9:8 1:8 1:8 1:8 1:8 1:8 12:8 2:8 2:8",
   "2:8 9:8 1:8 1:8 1:8 1:8 1:8 1:8 1:8 9:74 1:74 1:86 1:86 1:86 1:86 1:100 1:100 1:128 1:128",
   "1:112 1:112 1:126 1:126 3:8 1:8 1:8 1:8 1:8 1:8 1:8 1:8 9:8 1:8 1:8 1:8 1:8 1:8 1:8 1:8",
   "9:8 1:8 1:8 1:8 1:8 1:8 1:8 1:8 9:8 1:8 2:9 16:9 13:8 1:8 15:8 1:8 4:7 14:9 319:28 46:16",
   "1:16 1:16 1:16 1:16 1:16 1:16 1:16 1:16 1:16 1:16 1:16 1:16 1:16 1:16 1:16 20:1 819:26",
   "1:26 1:26 1:26 1:26 1:26 1:26 1:26 1:26 1:26 1:26 1:26 1:26 1:26 1:26 1:26 1:26 1:26 1:26",
   "1:26 1:26 1:26 1:26 1:26 1:26 1:26 1841:48 1:48 1:48 1:48 1:48 1:48 1:48 1:48 1:48 1:48",
   "1:48 1:48 1:48 1:48 1:48 1:48 1:48 1:48 1:48 1:48 1:48 1:48 1:48 1:48 1:48 1:48 1:48 1:48",
   "1:48 1:48 1:48 1:48 1:48 1:48 1:48 1:48 1:48 1:48 1:48 1:48 1:48 1:48 1:48 1:48 1:48 1:48",
   "1:48 1:48 49:1 7:1 2:1 2:1 7:1 3:1 11:1 2:1 2:1 2:1 2:1 2:1 2:1 2:1 2:1 2:1 2:1 2:1 2:1",
   "2:1 2:1 2:1 2:1 2:1 2:1 2:1 2:1 2:1 2:1 2:1 2:1 2:1 2:1 2:1 2:1 2:1 2:1 2:1 2:1 2:1 2:1",
   "2:1 2:1 2:1 2:1 2:1 2:1 2:1 2:1 2:1 2:1 2:1 2:1 2:1 2:1 2:1 9:1 2:1 5:1 31054:1 2:1 2:1",
   "2:1 2:1 4:1 2:1 2:1 2:1 2:1 2:1 2:1 2:1 2:1 2:1 2:1 2:1 2:1 2:1 2:1 2:1 2:1 20:1 2:1 2:1",
   "2:1 2:1 2:1 2:1 2:1 2:1 2:1 2:1 2:1 2:1 2:1 136:1 2:1 2:1 2:1 2:1 2:1 2:1 4:1 2:1 2:1 2:1",
   "2:1 2:1 2:1 2:1 2:1 2:1 2:1 2:1 2:1 2:1 2:1 2:1 2:1 2:1 2:1 2:1 2:1 2:1 2:1 2:1 2:1 2:1",
   "2:1 2:1 2:1 2:1 2:1 11:1 2:1 3:1 2:1 2:1 2:1 2:1 5:1 5:1 2:1 2:48 2:1 2:1 2:1 2:1 2:1 2:1",
   "2:1 2:1 2:1 2:1 11:928 1:1 2:1 2:1 2:1 2:1 2:1 2:1 2:1 5:1 2:1 3:1 4:1 6:1 2:1 2:1 27:1",
   "21264:1 1052:32 1:32 1:32 1:32 1:32 1:32 1:32 1:32 1:32 1:32 1:32 1:32 1:32 1:32 1:32 1:32",
   "1:32 1:32 1:32 1:32 1:32 1:32 1:32 1:32 1:32 1:32 1222:40 1:40 1:40 1:40 1:40 1:40 1:40",
   "1:40 1:40 1:40 1:40 1:40 1:40 1:40 1:40 1:40 1:40 1:40 1:40 1:40 1:40 1:40 1:40 1:40 1:40",
   "1:40 1:40 1:40 1:40 1:40 1:40 1:40 1:40 1:40 1:40 1:40 1:40 1:40 1:40 1:40 137:40 1:40",
   "1:40 1:40 1:40 1:40 1:40 1:40 1:40 1:40 1:40 1:40 1:40 1:40 1:40 1:40 1:40 1:40 1:40 1:40",
   "1:40 1:40 1:40 1:40 1:40 1:40 1:40 1:40 1:40 1:40 1:40 1:40 1:40 1:40 1:40 1:40 157:39",
   "1:39 1:39 1:39 1:39 1:39 1:39 1:39 1:39 1:39 1:39 2:39 1:39 1:39 1:39 1:39 1:39 1:39 1:39",
   "1:39 1:39 1:39 1:39 1:39 1:39 1:39 2:39 1:39 1:39 1:39 1:39 1:39 1:39 2:39 1:39 1771:64",
   "1:64 1:64 1:64 1:64 1:64 1:64 1:64 1:64 1:64 1:64 1:64 1:64 1:64 1:64 1:64 1:64 1:64 1:64",
   "1:64 1:64 1:64 1:64 1:64 1:64 1:64 1:64 1:64 1:64 1:64 1:64 1:64 1:64 1:64 1:64 1:64 1:64",
   "1:64 1:64 1:64 1:64 1:64 1:64 1:64 1:64 1:64 1:64 1:64 1:64 1:64 1:64 158:32 1:32 1:32",
   "1:32 1:32 1:32 1:32 1:32 1:32 1:32 1:32 1:32 1:32 1:32 1:32 1:32 1:32 1:32 1:32 1:32 1:32",
   "1:32 2875:32 1:32 1:32 1:32 1:32 1:32 1:32 1:32 1:32 1:32 1:32 1:32 1:32 1:32 1:32 1:32",
   "1:32 1:32 1:32 1:32 1:32 1:32 1:32 1:32 1:32 1:32 1:32 1:32 1:32 1:32 1:32 1:32 21889:32",
   "1:32 1:32 1:32 1:32 1:32 1:32 1:32 1:32 1:32 1:32 1:32 1:32 1:32 1:32 1:32 1:32 1:32 1:32",
   "1:32 1:32 1:32 1:32 1:32 1:32 1:32 1:32 1:32 1:32 1:32 1:32 1:32 31393:34 1:34 1:34 1:34",
   "1:34 1:34 1:34 1:34 1:34 1:34 1:34 1:34 1:34 1:34 1:34 1:34 1:34 1:34 1:34 1:34 1:34 1:34",
   "1:34 1:34 1:34 1:34 1:34 1:34 1:34 1:34 1:34 1:34 1:34 1:34"]

end LineEditor.Unicode
