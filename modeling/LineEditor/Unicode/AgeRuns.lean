import LineEditor.Unicode.Table

/-! The edition of the standard that assigned each code point, as runs of the code space. -/

namespace LineEditor.Unicode

/-- Consecutive runs of one edition: its number, or a dash where no character is assigned, and the
number of code points.
-/
def ageRuns : List String :=
  ["1.1:502 3.0:4 1.1:30 3.0:8 3.2:1 4.0:1 3.0:18 4.0:3 4.1:11 5.0:14 1.1:89 3.0:5 4.0:2",
   "1.1:47 3.0:1 1.1:10 3.0:5 4.0:17 1.1:70 3.0:9 3.2:1 4.0:8 4.1:5 4.0:3 1.1:2 3.0:1 3.2:13",
   "5.1:4 1.1:2 5.1:2 -:2 1.1:1 5.0:3 1.1:1 7.0:1 -:4 1.1:7 -:1 1.1:1 -:1 1.1:20 -:1 1.1:44",
   "5.1:1 1.1:7 3.0:1 3.2:2 1.1:1 3.0:1 1.1:1 3.0:1 1.1:1 3.0:1 1.1:1 3.0:1 1.1:18 3.1:2 3.2:1",
   "4.0:5 4.1:4 3.0:1 1.1:12 3.0:1 1.1:66 3.0:1 1.1:12 3.0:1 1.1:41 5.1:1 3.0:2 3.2:2 3.0:4",
   "1.1:53 3.2:2 1.1:2 3.2:2 1.1:2 3.2:2 5.0:1 1.1:28 3.0:2 1.1:8 4.1:2 1.1:2 5.0:6 3.2:16",
   "5.0:4 5.1:16 5.2:2 6.0:2 7.0:8 -:1 1.1:38 -:2 1.1:7 11.0:1 1.1:39 11.0:1 1.1:1 3.0:1 -:2",
   "7.0:2 6.1:1 -:1 2.0:17 4.1:1 2.0:13 1.1:10 5.0:1 1.1:9 2.0:1 4.1:3 -:8 1.1:27 -:4 11.0:1",
   "1.1:5 -:11 4.0:4 6.1:1 7.0:1 5.1:5 4.1:1 1.1:1 4.0:9 5.1:5 1.1:1 6.3:1 14.0:1 4.1:1 1.1:1",
   "6.0:1 1.1:26 5.1:5 1.1:19 3.0:3 4.0:3 4.1:6 6.0:1 1.1:14 3.2:2 1.1:72 3.0:2 1.1:5 3.0:1",
   "1.1:15 3.0:1 1.1:30 4.0:2 1.1:10 3.0:5 4.0:1 3.0:14 -:1 3.0:30 4.0:3 3.0:27 -:2 4.0:3",
   "4.1:30 5.1:18 3.0:49 3.2:1 -:14 5.0:59 -:2 11.0:3 5.2:46 -:2 5.2:15 -:1 6.0:28 -:2 6.0:1",
   "-:1 10.0:11 -:5 14.0:31 -:1 14.0:2 -:5 16.0:1 14.0:8 6.1:1 7.0:1 6.1:11 7.0:6 8.0:2 14.0:1",
   "9.0:8 13.0:10 14.0:11 11.0:1 9.0:15 8.0:1 6.1:27 7.0:1 5.2:1 1.1:3 4.0:1 1.1:53 6.0:2",
   "1.1:18 5.2:1 6.0:1 1.1:5 5.2:1 6.0:2 1.1:25 5.1:2 6.0:5 7.0:1 5.2:2 5.0:2 4.1:1 5.0:2",
   "7.0:1 1.1:3 -:1 1.1:8 -:2 1.1:2 -:2 1.1:22 -:1 1.1:7 -:1 1.1:1 -:3 1.1:4 -:2 1.1:1 4.0:1",
   "1.1:7 -:2 1.1:2 -:2 1.1:3 4.1:1 -:8 1.1:1 -:4 1.1:2 -:1 1.1:5 -:2 1.1:21 5.2:1 10.0:2",
   "11.0:1 -:2 4.0:1 1.1:1 4.0:1 -:1 1.1:6 -:4 1.1:2 -:2 1.1:22 -:1 1.1:7 -:1 1.1:2 -:1 1.1:2",
   "-:1 1.1:2 -:2 1.1:1 -:1 1.1:5 -:4 1.1:2 -:2 1.1:3 -:3 5.1:1 -:7 1.1:4 -:1 1.1:1 -:7 1.1:15",
   "5.1:1 11.0:1 -:10 1.1:3 -:1 1.1:7 4.0:1 1.1:1 -:1 1.1:3 -:1 1.1:22 -:1 1.1:7 -:1 1.1:2 -:1",
   "1.1:5 -:2 1.1:10 -:1 1.1:3 -:1 1.1:3 -:2 1.1:1 -:15 1.1:1 4.0:3 -:2 1.1:10 6.1:1 4.0:1 -:7",
   "8.0:1 10.0:6 -:1 1.1:3 -:1 1.1:8 -:2 1.1:2 -:2 1.1:22 -:1 1.1:7 -:1 1.1:2 -:1 4.0:1 1.1:4",
   "-:2 1.1:8 5.1:1 -:2 1.1:2 -:2 1.1:3 -:7 13.0:1 1.1:2 -:4 1.1:2 -:1 1.1:3 5.1:2 -:2 1.1:11",
   "4.0:1 6.0:6 -:10 1.1:2 -:1 1.1:6 -:3 1.1:3 -:1 1.1:4 -:3 1.1:2 -:1 1.1:1 -:1 1.1:2 -:3",
   "1.1:2 -:3 1.1:3 -:3 1.1:8 4.1:1 1.1:3 -:4 1.1:5 -:3 1.1:3 -:1 1.1:4 -:2 5.1:1 -:6 1.1:1",
   "-:14 4.1:1 1.1:12 4.0:8 -:5 7.0:1 1.1:3 11.0:1 1.1:8 -:1 1.1:3 -:1 1.1:23 -:1 1.1:10 7.0:1",
   "1.1:5 -:2 14.0:1 5.1:1 1.1:7 -:1 1.1:3 -:1 1.1:4 -:7 1.1:2 -:1 5.1:2 8.0:1 -:2 14.0:1 -:2",
   "1.1:2 5.1:2 -:2 1.1:10 -:7 12.0:1 5.1:8 9.0:1 7.0:1 1.1:2 11.0:1 1.1:8 -:1 1.1:3 -:1",
   "1.1:23 -:1 1.1:10 -:1 1.1:5 -:2 4.0:2 1.1:7 -:1 1.1:3 -:1 1.1:4 -:7 1.1:2 -:6 14.0:1 1.1:1",
   "-:1 1.1:2 5.0:2 -:2 1.1:10 -:1 5.0:2 15.0:1 -:12 10.0:1 7.0:1 1.1:2 13.0:1 1.1:8 -:1 1.1:3",
   "-:1 1.1:23 6.0:1 1.1:16 6.0:1 10.0:2 5.1:1 1.1:6 5.1:1 -:1 1.1:3 -:1 1.1:4 6.0:1 9.0:1 -:4",
   "9.0:3 1.1:1 9.0:7 8.0:1 1.1:2 5.1:2 -:2 1.1:10 5.1:6 9.0:3 5.1:7 -:1 13.0:1 3.0:2 -:1",
   "3.0:18 -:3 3.0:24 -:1 3.0:9 -:1 3.0:1 -:2 3.0:7 -:3 3.0:1 -:4 3.0:6 -:1 3.0:1 -:1 3.0:8",
   "-:6 7.0:10 -:2 3.0:3 -:12 1.1:58 -:4 1.1:29 -:37 1.1:2 -:1 1.1:1 -:1 12.0:1 1.1:2 12.0:1",
   "1.1:1 -:1 12.0:1 1.1:1 12.0:6 1.1:4 12.0:1 1.1:7 12.0:1 1.1:3 -:1 1.1:1 -:1 1.1:1 12.0:2",
   "1.1:2 12.0:1 1.1:13 12.0:1 1.1:3 -:2 1.1:5 -:1 1.1:1 -:1 1.1:6 15.0:1 -:1 1.1:10 -:2 1.1:2",
   "6.1:2 -:32 2.0:72 -:1 2.0:33 3.0:1 5.1:2 -:4 2.0:27 6.0:4 2.0:6 3.0:1 2.0:1 -:1 2.0:21",
   "3.0:3 2.0:7 3.0:1 2.0:1 3.0:3 -:1 3.0:15 -:1 5.1:1 3.0:1 4.1:2 5.1:3 5.2:4 6.0:2 -:37",
   "3.0:34 5.1:1 3.0:5 5.1:1 3.0:2 5.1:1 3.0:7 5.1:3 3.0:4 5.1:6 3.0:26 5.1:64 5.2:4 5.1:2",
   "1.1:38 -:1 6.1:1 -:5 6.1:1 -:2 1.1:39 3.2:2 4.1:2 1.1:1 4.1:1 6.1:3 1.1:90 5.2:5 1.1:68",
   "5.2:5 1.1:82 5.2:6 3.0:7 4.1:1 3.0:63 4.1:1 3.0:1 -:1 3.0:4 -:2 3.0:7 -:1 3.0:1 -:1 3.0:4",
   "-:2 3.0:39 4.1:1 3.0:1 -:1 3.0:4 -:2 3.0:31 4.1:1 3.0:1 -:1 3.0:4 -:2 3.0:7 -:1 3.0:1 -:1",
   "3.0:4 -:2 3.0:7 4.1:1 3.0:7 -:1 3.0:23 4.1:1 3.0:31 4.1:1 3.0:1 -:1 3.0:4 -:2 3.0:7 4.1:1",
   "3.0:39 4.1:1 3.0:19 -:2 6.0:2 4.1:2 3.0:28 -:3 4.1:26 -:6 3.0:85 8.0:1 -:2 8.0:6 -:2 5.2:1",
   "3.0:630 5.2:9 3.0:29 -:3 3.0:81 7.0:8 -:7 3.2:13 14.0:1 3.2:7 14.0:1 -:9 14.0:1 3.2:23 -:9",
   "3.2:20 -:12 3.2:13 -:1 3.2:3 -:1 3.2:2 -:12 3.0:93 4.0:1 -:2 3.0:10 -:6 4.0:10 -:6 3.0:15",
   "14.0:1 3.0:10 -:6 3.0:88 11.0:1 -:7 3.0:42 5.1:1 -:5 5.2:70 -:10 4.0:29 7.0:2 -:1 4.0:12",
   "-:4 4.0:12 -:4 4.0:1 -:3 4.0:42 -:2 4.0:5 -:11 4.1:42 5.2:2 -:4 4.1:26 -:6 4.1:10 5.2:1",
   "-:3 4.1:2 4.0:32 4.1:28 -:2 4.1:2 5.2:63 -:1 5.2:29 -:2 5.2:11 -:6 5.2:10 -:6 5.2:14 -:2",
   "7.0:15 13.0:2 14.0:14 -:49 5.0:76 14.0:1 -:1 16.0:2 5.0:45 14.0:2 16.0:1 5.1:43 6.1:3",
   "5.1:12 6.1:6 6.0:52 -:8 6.0:4 5.1:56 -:3 5.1:15 -:3 5.1:51 9.0:9 16.0:2 -:5 11.0:43 -:2",
   "11.0:3 6.1:8 -:8 5.2:35 6.1:4 10.0:1 7.0:2 12.0:1 -:5 4.0:108 4.1:88 5.0:7 5.1:28 7.0:15",
   "10.0:4 14.0:1 9.0:1 6.0:1 5.2:1 5.0:2 1.1:155 2.0:1 5.1:4 1.1:90 5.1:6 1.1:22 -:2 1.1:6",
   "-:2 1.1:38 -:2 1.1:6 -:2 1.1:8 -:1 1.1:1 -:1 1.1:1 -:1 1.1:1 -:1 1.1:31 -:2 1.1:53 -:1",
   "1.1:15 -:1 1.1:14 -:2 1.1:6 -:1 1.1:19 -:2 1.1:3 -:1 1.1:9 -:1 1.1:47 3.0:1 1.1:23 3.2:1",
   "3.0:6 3.2:5 4.0:2 4.1:2 3.2:1 4.1:7 3.2:5 5.1:1 -:1 6.3:4 1.1:7 3.2:1 -:2 1.1:27 -:1 4.1:5",
   "6.0:8 -:3 1.1:11 2.0:1 2.1:1 3.0:3 3.2:2 4.1:4 5.2:3 6.0:1 6.2:1 7.0:3 8.0:1 10.0:1 14.0:1",
   "-:15 1.1:18 3.0:2 3.2:7 4.1:1 5.0:4 5.1:1 -:15 1.1:57 3.0:2 4.0:1 4.1:1 3.2:15 4.1:1 5.0:2",
   "5.1:1 5.2:3 1.1:48 3.0:1 5.0:1 5.1:4 5.2:1 8.0:2 -:4 1.1:91 3.0:9 3.2:12 1.1:242 3.2:14",
   "1.1:1 3.0:1 1.1:121 3.0:1 3.2:1 3.0:30 3.2:52 4.0:2 4.1:11 5.0:12 5.2:1 6.0:11 7.0:7 9.0:4",
   "10.0:1 1.1:37 3.0:2 16.0:3 -:22 1.1:11 -:21 1.1:139 3.2:20 4.0:1 1.1:150 3.2:10 1.1:80",
   "3.0:8 3.2:8 1.1:20 4.0:2 3.2:2 4.1:1 3.0:1 1.1:86 3.0:2 3.2:12 4.1:2 3.2:10 4.0:8 4.1:11",
   "5.1:1 5.2:2 4.0:2 4.1:16 5.0:1 5.1:10 5.2:3 5.1:4 5.2:10 6.0:1 5.2:19 6.0:1 5.2:1 6.0:4",
   "5.2:24 7.0:1 1.1:4 6.0:1 1.1:4 6.0:2 1.1:28 6.0:1 1.1:35 6.0:1 1.1:1 6.0:1 1.1:4 6.0:3",
   "1.1:1 5.2:1 1.1:7 6.0:2 1.1:7 3.2:14 1.1:31 6.0:3 1.1:24 6.0:1 1.1:14 6.0:1 4.1:7 5.0:4",
   "6.1:1 5.1:1 6.1:1 6.0:2 3.2:28 5.1:4 3.2:16 3.0:256 3.2:512 4.0:14 4.1:6 5.0:7 5.1:5 5.0:4",
   "5.1:41 7.0:3 5.1:5 5.2:5 7.0:26 -:2 7.0:32 -:1 13.0:1 7.0:34 11.0:3 7.0:12 12.0:1 7.0:8",
   "10.0:1 11.0:25 8.0:4 11.0:15 12.0:1 4.1:47 14.0:1 4.1:47 14.0:1 5.0:13 5.1:3 5.2:1 5.1:3",
   "5.0:4 5.1:6 5.2:2 4.1:107 5.2:7 6.1:2 -:5 4.1:45 -:1 6.1:1 -:5 6.1:1 -:2 4.1:54 6.1:2 -:7",
   "4.1:1 6.0:1 -:14 6.0:1 4.1:23 -:9 4.1:7 -:1 4.1:7 -:1 4.1:7 -:1 4.1:7 -:1 4.1:7 -:1 4.1:7",
   "-:1 4.1:7 -:1 4.1:7 -:1 5.1:32 4.1:24 5.1:4 4.1:2 5.1:19 5.2:1 6.1:10 7.0:7 9.0:2 10.0:5",
   "11.0:5 12.0:1 13.0:3 14.0:11 -:34 3.0:26 -:1 3.0:89 -:12 3.0:214 -:26 3.0:12 15.1:4 1.1:56",
   "3.0:3 3.2:3 3.0:1 1.1:1 -:1 1.1:84 3.2:2 -:2 1.1:6 3.2:2 1.1:94 3.2:1 -:5 1.1:40 5.1:1",
   "10.0:1 11.0:1 -:1 1.1:94 -:1 1.1:16 3.0:24 6.0:3 13.0:5 4.1:16 5.1:20 16.0:2 -:9 15.1:1",
   "3.2:16 1.1:29 4.0:2 -:1 1.1:36 5.2:12 4.0:1 3.2:15 1.1:28 4.0:2 4.1:1 1.1:50 3.2:15 1.1:12",
   "4.0:4 1.1:47 12.1:1 1.1:119 4.0:4 1.1:99 4.0:2 1.1:31 4.0:1 3.0:6582 13.0:10 4.0:64",
   "1.1:20902 4.1:22 5.1:8 5.2:8 6.1:1 8.0:9 10.0:21 11.0:5 13.0:13 14.0:3 3.0:1165 -:3 3.0:18",
   "3.2:2 3.0:16 3.2:1 3.0:12 3.2:1 3.0:3 3.2:1 3.0:1 -:9 5.2:48 5.1:300 -:20 5.1:32 6.0:2",
   "5.1:18 6.1:8 5.1:28 7.0:6 8.0:1 6.1:1 5.2:88 -:8 4.1:23 5.0:4 5.1:5 5.0:2 5.1:107 6.0:2",
   "8.0:1 6.0:2 6.1:2 7.0:12 6.0:10 6.1:1 7.0:3 9.0:1 11.0:1 7.0:2 8.0:6 11.0:2 12.0:6 14.0:2",
   "12.0:5 13.0:4 16.0:3 -:2 14.0:2 -:1 14.0:1 -:1 14.0:5 16.0:3 -:21 14.0:3 13.0:2 7.0:1",
   "6.1:2 6.0:1 5.1:5 4.1:44 13.0:1 -:3 5.2:10 -:6 5.0:56 -:8 5.1:69 9.0:1 -:8 5.1:12 -:6",
   "5.2:28 8.0:2 11.0:2 5.1:84 -:11 5.1:1 5.2:29 -:3 5.2:78 -:1 5.2:11 -:4 5.2:2 7.0:31 -:1",
   "5.1:55 -:9 5.1:14 -:2 5.1:10 -:2 5.1:4 5.2:28 7.0:4 5.2:67 -:24 5.2:5 6.1:23 -:10 6.0:6",
   "-:2 6.0:6 -:2 6.0:6 -:9 6.0:7 -:1 6.0:7 -:1 7.0:48 8.0:4 7.0:2 12.0:2 13.0:4 -:4 8.0:80",
   "5.2:46 -:2 5.2:10 -:6 2.0:11172 -:12 5.2:23 -:4 5.2:49 -:2052 1.1:6702 6.1:2 3.2:59 5.2:3",
   "-:2 4.1:106 -:38 1.1:7 -:12 1.1:5 -:5 3.0:1 1.1:25 -:1 1.1:5 -:1 1.1:1 -:1 1.1:2 -:1 1.1:2",
   "-:1 1.1:108 6.0:16 14.0:1 -:16 1.1:365 14.0:16 1.1:64 -:2 1.1:54 -:7 14.0:1 3.1:32 1.1:12",
   "3.2:1 4.0:1 14.0:2 3.2:16 4.1:10 -:6 1.1:4 5.1:3 7.0:7 8.0:2 1.1:21 3.2:2 4.0:2 1.1:10 -:1",
   "1.1:19 -:1 1.1:4 -:4 1.1:3 3.2:1 1.1:1 -:1 1.1:135 -:2 1.1:1 -:1 1.1:94 3.2:2 1.1:94 -:3",
   "1.1:6 -:2 1.1:6 -:2 1.1:6 -:2 1.1:3 -:3 1.1:7 -:1 1.1:7 -:10 3.0:3 2.1:1 1.1:3 4.0:12 -:1",
   "4.0:26 -:1 4.0:19 -:1 4.0:2 -:1 4.0:15 -:2 4.0:14 -:34 4.0:123 -:5 4.0:3 -:4 4.0:45 -:3",
   "4.0:9 4.1:75 7.0:2 9.0:2 -:1 5.1:12 13.0:1 -:3 7.0:1 -:47 5.1:46 -:130 5.1:29 -:3 5.1:49",
   "-:15 7.0:28 -:4 3.1:31 7.0:1 3.1:4 -:9 10.0:3 3.1:27 -:5 7.0:43 -:5 4.0:30 -:1 4.0:1",
   "4.1:36 -:4 4.1:14 -:42 3.1:38 4.0:2 3.1:38 4.0:80 -:2 4.0:10 -:6 9.0:36 -:4 9.0:36 -:4",
   "7.0:40 -:8 7.0:52 -:11 7.0:1 14.0:11 -:1 14.0:15 -:1 14.0:7 -:1 14.0:2 -:1 14.0:11 -:1",
   "14.0:15 -:1 14.0:7 -:1 14.0:2 -:3 16.0:52 -:12 7.0:311 -:9 7.0:22 -:10 7.0:8 -:24 14.0:6",
   "-:1 14.0:42 -:1 14.0:9 -:69 4.0:6 -:2 4.0:1 -:1 4.0:44 -:1 4.0:2 -:3 4.0:1 -:2 4.0:1",
   "5.2:22 -:1 5.2:9 7.0:63 -:8 7.0:9 -:48 8.0:19 -:1 8.0:2 -:5 8.0:5 5.0:26 5.2:2 -:3 5.0:1",
   "5.1:26 -:5 5.1:1 -:64 6.1:56 -:4 8.0:2 6.1:2 8.0:16 -:2 8.0:46 4.1:4 -:1 4.1:2 -:5 4.1:8",
   "-:1 4.1:3 -:1 4.1:27 11.0:2 -:2 4.1:3 -:4 4.1:9 11.0:1 -:7 4.1:9 -:7 5.2:32 7.0:32 -:32",
   "7.0:39 -:4 7.0:12 -:9 5.2:54 -:3 5.2:29 -:2 5.2:27 -:5 5.2:8 7.0:18 -:7 7.0:4 -:12 7.0:7",
   "-:80 5.2:73 -:55 8.0:51 -:13 8.0:51 -:7 8.0:6 11.0:40 -:8 11.0:10 -:6 16.0:38 -:3 16.0:29",
   "-:8 16.0:2 -:208 5.2:31 -:1 13.0:42 -:1 13.0:3 -:2 13.0:2 -:16 16.0:3 -:55 16.0:1 15.0:3",
   "11.0:40 -:8 11.0:42 -:22 14.0:26 -:38 13.0:28 -:20 12.0:23 -:9 6.0:78 -:4 6.0:30 14.0:6",
   "-:9 7.0:1 5.2:66 14.0:1 -:10 11.0:1 -:2 6.1:25 -:7 6.1:10 -:6 6.1:53 -:1 6.1:14 11.0:3",
   "13.0:1 -:8 7.0:39 -:9 6.1:73 8.0:4 7.0:1 13.0:2 6.1:10 7.0:1 8.0:5 -:1 7.0:20 -:11 7.0:18",
   "-:1 7.0:43 9.0:1 15.0:3 -:62 8.0:7 -:1 8.0:1 -:1 8.0:4 -:1 8.0:15 -:1 8.0:11 -:6 7.0:59",
   "-:5 7.0:10 -:6 8.0:1 7.0:3 -:1 7.0:8 -:2 7.0:2 -:2 7.0:22 -:1 7.0:7 -:1 7.0:2 -:1 7.0:5",
   "-:1 11.0:1 7.0:9 -:2 7.0:2 -:2 7.0:3 -:2 8.0:1 -:6 7.0:1 -:5 7.0:7 -:2 7.0:7 -:3 7.0:5",
   "-:11 16.0:10 -:1 16.0:1 -:2 16.0:1 -:1 16.0:38 -:1 16.0:10 -:1 16.0:1 -:2 16.0:1 -:1",
   "16.0:4 -:1 16.0:10 -:1 16.0:2 -:8 16.0:2 -:29 9.0:90 13.0:1 9.0:1 -:1 9.0:1 11.0:1 12.0:1",
   "13.0:2 -:30 7.0:72 -:8 7.0:10 -:166 7.0:54 -:2 7.0:18 8.0:20 -:34 7.0:69 -:11 7.0:10 -:6",
   "9.0:13 -:19 6.1:56 12.0:1 14.0:1 -:6 6.1:10 -:6 16.0:20 -:28 8.0:26 11.0:1 -:2 8.0:15 -:4",
   "8.0:16 14.0:7 -:185 11.0:60 -:100 7.0:83 -:12 7.0:1 13.0:7 -:2 13.0:1 -:2 13.0:8 -:1",
   "13.0:2 -:1 13.0:30 -:1 13.0:2 -:2 13.0:12 -:9 13.0:10 -:70 12.0:8 -:2 12.0:46 -:2 12.0:11",
   "-:27 10.0:72 -:8 10.0:52 12.0:2 10.0:23 11.0:1 10.0:5 -:13 14.0:16 7.0:57 -:7 15.0:10",
   "-:182 16.0:34 -:14 16.0:10 -:6 9.0:9 -:1 9.0:45 -:1 9.0:14 -:10 9.0:29 -:3 9.0:32 -:2",
   "9.0:22 -:1 9.0:14 -:73 10.0:7 -:1 10.0:2 -:1 10.0:44 -:3 10.0:1 -:1 10.0:2 -:1 10.0:9 -:8",
   "10.0:10 -:6 11.0:6 -:1 11.0:2 -:1 11.0:37 -:1 11.0:2 -:1 11.0:6 -:7 11.0:10 -:310 11.0:25",
   "-:7 15.0:17 -:1 15.0:41 -:3 15.0:28 16.0:1 -:85 13.0:1 -:15 12.0:50 -:13 12.0:1 5.0:879",
   "7.0:42 8.0:1 -:102 5.0:99 7.0:12 -:1 5.0:4 7.0:1 -:11 8.0:196 -:2636 14.0:99 -:13 5.2:1071",
   "15.0:1 12.0:9 15.0:29 -:10 16.0:3995 -:5 8.0:583 -:6841 16.0:58 -:1734 6.0:569 -:7 7.0:31",
   "-:1 7.0:10 -:4 7.0:2 14.0:79 -:1 14.0:10 -:6 7.0:30 -:2 7.0:6 -:10 7.0:70 -:10 7.0:10 -:1",
   "7.0:7 -:1 7.0:21 -:5 7.0:19 -:432 16.0:58 -:198 11.0:91 -:101 6.1:69 12.0:6 -:4 12.0:1",
   "6.1:47 12.0:9 -:7 6.1:17 -:64 9.0:1 10.0:1 12.0:2 13.0:1 -:11 13.0:2 -:14 9.0:6125 11.0:5",
   "12.0:6 -:8 9.0:755 13.0:483 -:41 16.0:1 13.0:9 -:8935 14.0:4 -:1 14.0:7 -:1 14.0:2 -:1",
   "6.0:2 10.0:285 14.0:4 -:15 15.0:1 -:29 12.0:3 -:2 15.0:1 -:14 12.0:4 -:8 10.0:396 -:2308",
   "7.0:107 -:5 7.0:13 -:3 7.0:9 -:7 7.0:10 -:2 7.0:8 -:3932 16.0:250 -:6 16.0:436 -:76",
   "14.0:46 -:2 14.0:23 -:9 14.0:116 -:60 3.1:246 -:10 3.1:39 -:2 5.1:1 3.1:180 8.0:11 14.0:2",
   "-:21 4.1:70 -:122 15.0:20 -:12 11.0:20 -:12 4.0:87 -:9 5.0:18 11.0:7 -:135 3.1:85 -:1",
   "3.1:71 -:1 3.1:2 -:2 3.1:1 -:2 3.1:2 -:2 3.1:4 -:1 3.1:12 -:1 3.1:1 -:1 3.1:4 4.0:1 3.1:2",
   "-:1 3.1:65 -:1 3.1:4 -:2 3.1:8 -:1 3.1:7 -:1 3.1:28 -:1 3.1:4 -:1 3.1:5 -:1 3.1:1 -:3",
   "3.1:7 -:1 3.1:338 4.1:2 -:2 3.1:290 5.0:2 -:2 3.1:50 8.0:652 -:15 8.0:5 -:1 8.0:15 -:1104",
   "14.0:31 -:6 15.0:6 -:213 9.0:7 -:1 9.0:17 -:2 9.0:7 -:1 9.0:2 -:1 9.0:5 -:5 15.0:62 -:33",
   "15.0:1 -:112 12.0:45 -:3 12.0:14 -:2 12.0:10 -:4 12.0:2 -:320 14.0:31 -:17 12.0:58 -:5",
   "12.0:1 -:464 15.0:42 -:214 16.0:43 -:4 16.0:1 -:480 14.0:7 -:1 14.0:4 -:1 14.0:2 -:1",
   "14.0:15 -:1 7.0:197 -:2 7.0:16 -:41 9.0:75 12.0:1 -:4 9.0:10 -:4 9.0:2 -:785 11.0:68 -:76",
   "12.0:61 -:194 6.1:4 -:1 6.1:27 -:1 6.1:2 -:1 6.1:1 -:2 6.1:1 -:1 6.1:10 -:1 6.1:4 -:1",
   "6.1:1 -:1 6.1:1 -:6 6.1:1 -:4 6.1:1 -:1 6.1:1 -:1 6.1:1 -:1 6.1:3 -:1 6.1:2 -:1 6.1:1 -:2",
   "6.1:1 -:1 6.1:1 -:1 6.1:1 -:1 6.1:1 -:1 6.1:1 -:1 6.1:2 -:1 6.1:1 -:2 6.1:4 -:1 6.1:7 -:1",
   "6.1:4 -:1 6.1:4 -:1 6.1:1 -:1 6.1:10 -:1 6.1:17 -:5 6.1:3 -:1 6.1:5 -:1 6.1:17 -:52 6.1:2",
   "-:270 5.1:44 -:4 5.1:100 -:12 6.0:15 -:2 6.0:14 7.0:1 -:1 6.0:15 -:1 6.0:15 7.0:22 -:10",
   "5.2:11 7.0:2 13.0:3 5.2:31 11.0:1 6.0:1 5.2:1 6.0:11 5.2:1 6.0:1 5.2:1 6.0:2 5.2:1 6.0:3",
   "5.2:1 6.0:3 5.2:5 6.0:8 5.2:1 6.0:7 5.2:1 6.0:10 6.1:2 12.0:1 13.0:3 6.0:9 5.2:1 6.0:1",
   "5.2:2 6.0:2 5.2:1 6.0:10 5.2:4 6.0:2 5.2:1 6.0:10 9.0:18 13.0:1 -:56 6.0:26 5.2:1 6.0:2",
   "-:13 5.2:34 6.0:9 9.0:1 -:4 5.2:9 -:7 6.0:2 -:14 10.0:6 -:154 6.0:33 7.0:12 8.0:3 6.0:6",
   "7.0:1 6.0:70 7.0:1 8.0:2 6.0:20 7.0:12 6.0:37 7.0:1 6.0:5 7.0:4 8.0:5 7.0:12 6.0:17 7.0:7",
   "8.0:8 6.0:63 7.0:1 6.0:1 7.0:1 6.0:182 7.0:1 6.0:4 7.0:2 8.0:1 6.0:62 7.0:2 6.1:4 7.0:7",
   "8.0:5 6.0:24 7.0:18 9.0:1 7.0:41 9.0:1 7.0:86 6.0:5 6.1:1 6.0:16 6.1:1 6.0:3 6.1:1 6.0:1",
   "6.1:1 6.0:1 6.1:1 6.0:1 6.1:1 6.0:3 6.1:1 6.0:6 6.1:2 6.0:4 6.1:1 6.0:1 6.1:2 6.0:4 6.1:1",
   "6.0:12 7.0:2 8.0:2 6.0:11 7.0:48 6.0:70 7.0:10 8.0:1 9.0:2 10.0:2 12.0:1 13.0:2 -:4 15.0:1",
   "14.0:3 7.0:13 -:3 7.0:4 9.0:3 10.0:2 11.0:1 12.0:1 13.0:2 -:3 6.0:116 15.0:3 -:4 15.0:5",
   "7.0:85 11.0:4 15.0:1 -:6 12.0:12 -:4 14.0:1 -:15 7.0:12 -:4 7.0:56 -:8 7.0:10 -:6 7.0:40",
   "-:8 7.0:30 -:2 13.0:2 16.0:10 -:4 16.0:2 -:62 10.0:12 13.0:1 12.0:3 8.0:9 9.0:6 10.0:1",
   "9.0:8 10.0:8 9.0:1 10.0:2 9.0:12 12.0:1 9.0:12 10.0:1 11.0:3 9.0:15 10.0:13 11.0:5 12.0:1",
   "13.0:1 11.0:4 13.0:2 14.0:1 11.0:1 12.0:1 11.0:4 8.0:5 9.0:13 10.0:6 11.0:11 13.0:2 12.0:6",
   "13.0:3 12.0:2 11.0:10 12.0:6 8.0:1 11.0:2 12.0:8 13.0:1 14.0:1 12.0:3 10.0:23 11.0:25",
   "12.0:84 -:12 11.0:14 -:2 12.0:4 13.0:1 15.0:3 12.0:3 14.0:2 -:3 12.0:3 13.0:4 15.0:2",
   "16.0:1 -:5 16.0:1 12.0:6 13.0:19 14.0:4 15.0:3 13.0:7 14.0:4 15.0:3 16.0:1 15.0:1 13.0:3",
   "14.0:3 16.0:1 -:7 15.0:2 13.0:7 14.0:3 15.0:2 16.0:1 -:2 16.0:1 14.0:8 15.0:1 16.0:1 -:6",
   "14.0:7 15.0:2 -:7 13.0:147 -:1 13.0:55 16.0:37 13.0:10 -:1028 2.0:2 3.1:42711 13.0:7",
   "14.0:2 -:32 5.2:4149 14.0:4 15.0:1 -:6 6.0:222 -:2 8.0:5762 -:14 10.0:7473 -:15 15.1:622",
   "-:2466 3.1:542 -:1504 2.0:2 13.0:4939 -:5 15.0:4192 -:56398 2.0:2 -:65534 2.0:2 -:65534",
   "2.0:2 -:65534 2.0:2 -:65534 2.0:2 -:65534 2.0:2 -:65534 2.0:2 -:65534 2.0:2 -:65534 2.0:2",
   "-:65534 2.0:2 -:65534 2.0:2 -:1 3.1:1 -:30 3.1:96 -:128 4.0:240 -:65038 2.0:131074"]

end LineEditor.Unicode
